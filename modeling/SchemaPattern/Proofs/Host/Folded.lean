import SchemaPattern.Host.Plan
import SchemaPattern.Proofs.Host.Image

/-!
# Nodes that do not tell case

A node is folded if each of its sets has all case variants of its characters, and if its references
ignore case.  The image of an expression without escapes is folded, and so are the automata and the
plan that are made of a folded node.
-/

namespace SchemaPattern

open Unicode

/-! ## Sets -/

/-- Whether the set has a character does not depend on the case of the character. -/
def CharSet.Folded (s : CharSet) : Prop := ∀ c d, CaseVariant c d → s.contains c = s.contains d

/-- The property does not depend on the case of a character. -/
def FoldedProperty (property : Char → Prop) : Prop :=
  ∀ c d, CaseVariant c d → (property c ↔ property d)

theorem CharSet.Comprises.folded {s : CharSet} {property : Char → Prop} (h : s.Comprises property)
    (hproperty : FoldedProperty property) : s.Folded := by
  intro c d hvariant
  rw [Bool.eq_iff_iff, h.contains_iff, h.contains_iff]
  exact hproperty c d hvariant

namespace FoldedProperty

theorem variants (e : Char) : FoldedProperty fun x => CaseVariant x e := by
  intro c d h
  exact ⟨h.symm.trans, h.trans⟩

theorem not {property : Char → Prop} (h : FoldedProperty property) :
    FoldedProperty fun x => ¬ property x := fun c d hvariant => not_congr (h c d hvariant)

theorem and {property other : Char → Prop} (h : FoldedProperty property)
    (hother : FoldedProperty other) : FoldedProperty fun x => property x ∧ other x :=
  fun c d hvariant => and_congr (h c d hvariant) (hother c d hvariant)

theorem exists_mem {α : Type} {l : List α} {property : α → Char → Prop}
    (h : ∀ a ∈ l, FoldedProperty (property a)) : FoldedProperty fun x => ∃ a ∈ l, property a x :=
  fun c d hvariant => exists_congr fun a => and_congr_right fun ha => h a ha c d hvariant

/-- A character without variants can be told from all others. -/
theorem ne_of_notMem {e : Char} (h : e ∉ casedChars) : FoldedProperty fun x => x ≠ e := by
  have hne {c d : Char} (hvariant : CaseVariant c d) (hc : c ≠ e) : d ≠ e := by
    rintro rfl
    exact h (cased_of_variant hvariant.symm hc.symm)
  exact fun c d hvariant => ⟨hne hvariant, hne hvariant.symm⟩

theorem member {m : ClassMember} (h : m.escape? = none) : FoldedProperty fun x => m.Has true x := by
  cases m with
  | char c => exact variants c
  | range r =>
      exact fun c d hvariant =>
        exists_congr fun e => and_congr_right fun _ => variants e c d hvariant
  | escape e => cases h

theorem group {g : CharGroup} (h : g.escapes = []) : FoldedProperty fun x => g.Has true x := by
  have hexists : FoldedProperty fun x => ∃ m ∈ g.members, m.Has true x :=
    exists_mem fun m hm => member (List.filterMap_eq_nil_iff.1 h m hm)
  unfold CharGroup.Has
  split
  · exact hexists.not
  · exact hexists

theorem charClass {c : CharClass} (h : c.escapes = []) : FoldedProperty fun x => c.Has true x := by
  induction c with
  | group g => exact group h
  | difference g subtrahend ih =>
      obtain ⟨hg, hsubtrahend⟩ := List.append_eq_nil_iff.1 h
      exact (group hg).and (ih hsubtrahend).not

end FoldedProperty

/-! ## Characters without variants -/

theorem runs_above_controls :
    ∀ run ∈ foldRuns, 0x20 ≤ run.first ∧ 0x20 ≤ (run.first : Int) + run.shift := by
  decide +kernel

theorem toNat_of_ofNat {n : Nat} {c : Char} (h : Char.ofNat n = c) (hc : c ≠ '\x00') :
    c.toNat = n := by
  by_cases hvalid : n.isValidChar
  · rw [← h, toNat_ofNat_of_valid hvalid]
  · rw [Char.ofNat, dif_neg hvalid] at h
    exact absurd h.symm hc

/-- Control characters have no variants. -/
theorem control_notMem_cased {c : Char} (h : c.toNat < 0x20) (hc : c ≠ '\x00') :
    c ∉ casedChars := by
  intro hmem
  obtain ⟨run, hrun, hmem⟩ := List.mem_flatMap.1 hmem
  obtain ⟨n, hn, hmem⟩ := List.mem_flatMap.1 hmem
  obtain ⟨k, -, rfl⟩ := List.mem_map.1 hn
  obtain ⟨hfirst, htarget⟩ := runs_above_controls run hrun
  simp only [List.mem_cons, List.not_mem_nil, or_false, FoldRun.target] at hmem
  obtain hchar | hchar := hmem
  · have := toNat_of_ofNat hchar.symm hc
    omega
  · have := toNat_of_ofNat hchar.symm hc
    omega

theorem newline_notMem_cased : '\n' ∉ casedChars := control_notMem_cased (by decide) (by decide)

theorem carriageReturn_notMem_cased : '\r' ∉ casedChars :=
  control_notMem_cased (by decide) (by decide)

namespace Host

/-! ## Nodes -/

inductive Node.Folded : Node → Prop
  | alternation {branches : List Node} (h : ∀ n ∈ branches, n.Folded) : Folded (.alternation branches)
  | row {items : List Node} (h : ∀ n ∈ items, n.Folded) : Folded (.row items)
  | repeated {item : Node} (min : Nat) (max : Option Nat) (lazy : Bool) (h : item.Folded) :
      Folded (.repeated item min max lazy)
  | capture {body : Node} (number : Nat) (h : body.Folded) : Folded (.capture number body)
  | group {body : Node} (h : body.Folded) : Folded (.group body)
  | reference (number : Nat) : Folded (.reference number true)
  | border (atStart multiline : Bool) : Folded (.border atStart multiline)
  | set {chars : CharSet} (h : chars.Folded) : Folded (.set chars)

theorem Node.Folded.ofItems {items : List Node} (h : ∀ n ∈ items, n.Folded) :
    (Node.ofItems items).Folded := by
  unfold Node.ofItems
  split
  · exact h _ (.head _)
  · exact .row h

mutual

/-- Escapes are the only parts of an expression that tell case. -/
theorem Image.folded {e : Expr} {node : Node} : ∀ {n m : Nat},
    Image true n e node m → e.escapes = [] → node.Folded
  | _, _, .disjunction h, hescapes => .alternation (h.folded hescapes)
  | _, _, .branch h, hescapes => .row (h.folded hescapes)
  | _, _, .piece q h, hescapes => .repeated _ _ _ (h.folded hescapes)
  | _, _, .capturing h, hescapes => .capture _ (h.folded hescapes)
  | _, _, .nonCapturing h, hescapes => .group (h.folded hescapes)
  | _, _, .backReference _ index, _ => .group (.reference index)
  | _, _, .border _ atStart multiline, _ => .group (.border atStart multiline)
  | _, _, .anyChar _ h, _ => .group (.set (h.folded fun _ _ _ => Iff.rfl))
  | _, _, .withinLine _ h, _ => .set <| h.folded <|
      (FoldedProperty.ne_of_notMem newline_notMem_cased).and <|
        .ne_of_notMem carriageReturn_notMem_cased
  | _, _, .literal _ h, _ => .set (h.folded (.variants _))
  | _, _, .charClass _ h, hescapes => .set (h.folded (.charClass hescapes))
  | _, _, .escape _ _, hescapes => by cases hescapes

theorem Images.folded {es : List Expr} {nodes : List Node} : ∀ {n m : Nat},
    Images true n es nodes m → Expr.escapesOfAll es = [] → ∀ node ∈ nodes, node.Folded
  | _, _, .nil _, _ => by simp
  | _, _, .cons h hrest, hescapes => by
      obtain ⟨hfirst, hothers⟩ := List.append_eq_nil_iff.1 hescapes
      exact List.forall_mem_cons.2 ⟨h.folded hfirst, hrest.folded hothers⟩

end

/-! ## Automata -/

def Instruction.Folded : Instruction → Prop
  | take chars _ => chars.Folded
  | _ => True

def Code.Folded (code : Code) : Prop := ∀ i ∈ code, i.Folded

theorem Code.Folded.add {code : Code} (h : code.Folded) {i : Instruction} (hi : i.Folded) :
    (code.add i).1.Folded := by
  intro j hj
  rcases Array.mem_push.1 hj with hj | rfl
  · exact h j hj
  · exact hi

theorem Instruction.folded_fork (lazy : Bool) (more stop : Nat) :
    (Instruction.fork lazy more stop).Folded := trivial

namespace Fragment

/-- A fragment adds only folded instructions. -/
def Folded (f : Fragment) : Prop := ∀ next (code : Code), code.Folded → (f next code).1.Folded

variable {f g : Fragment}

theorem folded_single {i : Nat → Instruction} (h : ∀ next, (i next).Folded) :
    (single i).Folded := fun next _ hcode => hcode.add (h next)

theorem Folded.followedBy (hf : f.Folded) (hg : g.Folded) : (f.followedBy g).Folded :=
  fun next code hcode => hf (g next code).2 _ (hg next code hcode)

theorem Folded.times (hf : f.Folded) (n : Nat) : (f.times n).Folded := by
  intro next code hcode
  induction n generalizing next code with
  | zero => exact hcode
  | succ n ih => exact ih _ _ (hf next code hcode)

theorem Folded.upTo (hf : f.Folded) (lazy : Bool) (stop n : Nat) : (f.upTo lazy stop n).Folded := by
  intro next code hcode
  induction n generalizing next code with
  | zero => exact hcode
  | succ n ih => exact ih _ _ ((hf next code hcode).add (Instruction.folded_fork ..))

theorem Folded.loop (hf : f.Folded) (lazy : Bool) (next : Nat) {code : Code} (h : code.Folded) :
    Code.Folded (f.loop lazy next code).1 := by
  have hagain : Instruction.Folded (.choose []) := trivial
  have hcopy := hf code.size _ (h.add hagain)
  intro i hi
  rcases Array.mem_or_eq_of_mem_setIfInBounds hi with hi | rfl
  · exact hcopy i hi
  · exact Instruction.folded_fork ..

theorem Folded.oneOrMore (hf : f.Folded) (lazy : Bool) : (f.oneOrMore lazy).Folded :=
  fun next _ hcode => hf.loop lazy next hcode

theorem Folded.zeroOrMore (hf : f.Folded) (emptyCopies lazy : Bool) :
    (f.zeroOrMore emptyCopies lazy).Folded := by
  intro next code hcode
  have hloop := hf.loop lazy next hcode
  unfold Fragment.zeroOrMore
  cases emptyCopies with
  | false => exact hloop
  | true => exact hloop.add (Instruction.folded_fork ..)

theorem Folded.repeated (hf : f.Folded) (emptyCopies : Bool) (min : Nat) (max : Option Nat)
    (lazy : Bool) : (f.repeated emptyCopies min max lazy).Folded := by
  unfold Fragment.repeated
  split
  · exact (hf.times _).followedBy fun next code hcode => hf.upTo _ _ _ next code hcode
  · exact hf.zeroOrMore emptyCopies lazy
  · exact (hf.times _).followedBy (hf.oneOrMore _)

end Fragment

theorem Node.folded_fragmentOfRow {items : List Node} (h : ∀ n ∈ items, n.fragment.Folded) :
    (Node.fragmentOfRow items).Folded := by
  induction items with
  | nil => exact fun _ _ hcode => hcode
  | cons n items ih =>
      obtain ⟨hn, hitems⟩ := List.forall_mem_cons.1 h
      exact hn.followedBy (ih hitems)

theorem Node.folded_fragments {branches : List Node} (h : ∀ n ∈ branches, n.fragment.Folded)
    (next : Nat) {code : Code} (hcode : code.Folded) :
    Code.Folded (Node.fragments branches next code).1 := by
  induction branches with
  | nil => exact hcode
  | cons n branches ih =>
      obtain ⟨hn, hbranches⟩ := List.forall_mem_cons.1 h
      exact hn next _ (ih hbranches)

theorem Node.Folded.fragment {n : Node} (h : n.Folded) : n.fragment.Folded := by
  induction h with
  | alternation h ih =>
      exact fun next code hcode => (Node.folded_fragments ih next hcode).add trivial
  | row h ih => exact Node.folded_fragmentOfRow ih
  | repeated min max lazy h ih => exact ih.repeated _ _ _ _
  | capture number h ih =>
      have henter : (Fragment.single (.enter number)).Folded :=
        Fragment.folded_single fun _ => trivial
      have hleave : (Fragment.single (.leave number)).Folded :=
        Fragment.folded_single fun _ => trivial
      exact henter.followedBy (ih.followedBy hleave)
  | group h ih => exact ih
  | reference number => exact Fragment.folded_single fun _ => trivial
  | border atStart multiline => exact Fragment.folded_single fun _ => trivial
  | set h => exact Fragment.folded_single fun _ => h

theorem Automaton.folded_ofNode {n : Node} (h : n.Folded) : (Automaton.ofNode n).code.Folded := by
  apply h.fragment
  intro i hi
  obtain rfl : i = .accept := by simpa using hi
  trivial

/-! ## Plans -/

inductive Plan.Folded : Plan → Prop
  | automatic {a : Automaton} (h : a.code.Folded) : Folded (.automatic a)
  | alternation {branches : List Plan} (h : ∀ n ∈ branches, n.Folded) : Folded (.alternation branches)
  | row {items : List Plan} (h : ∀ n ∈ items, n.Folded) : Folded (.row items)
  | repeated {item : Plan} (min : Nat) (max : Option Nat) (lazy : Bool) (h : item.Folded) :
      Folded (.repeated item min max lazy)
  | capture {body : Plan} (number : Nat) (h : body.Folded) : Folded (.capture number body)
  | reference (number : Nat) : Folded (.reference number true)
  | border (atStart multiline : Bool) : Folded (.border atStart multiline)
  | set {chars : CharSet} (h : chars.Folded) : Folded (.set chars)

namespace Node

variable {referred : List Nat} {last : Bool}

theorem Folded.automatic {n : Node} (h : n.Folded) {p : Plan} (hp : n.automatic? = some p) :
    p.Folded := by
  unfold automatic? at hp
  split at hp
  · cases hp
    exact .automatic (Automaton.folded_ofNode h)
  · cases hp

theorem folded_automaticRow {items : List Node} (h : ∀ n ∈ items, n.Folded) {ps : List Plan}
    (hps : automaticRow? items = some ps) : ∀ p ∈ ps, p.Folded := by
  unfold automaticRow? at hps
  split at hps
  · cases hps
    simp
  · obtain ⟨p, hp, rfl⟩ := Option.map_eq_some_iff.1 hps
    simpa using (Folded.ofItems h).automatic hp

theorem folded_plans {items : List Node}
    (h : ∀ n ∈ items, ∀ last p, n.plan? referred last = some p → p.Folded) {ps : List Plan}
    (hps : plans? referred last items = some ps) : ∀ p ∈ ps, p.Folded := by
  induction items generalizing ps with
  | nil =>
      cases hps
      simp
  | cons n items ih =>
      obtain ⟨hn, hitems⟩ := List.forall_mem_cons.1 h
      rw [plans?] at hps
      obtain ⟨p, hp, hps⟩ := Option.bind_eq_some_iff.1 hps
      obtain ⟨rest, hrest, rfl⟩ := Option.map_eq_some_iff.1 hps
      exact List.forall_mem_cons.2 ⟨hn last p hp, ih hitems hrest⟩

theorem mem_of_mem_front {items : List Node} {n : Node} (h : n ∈ front referred items) :
    n ∈ items := (List.takeWhile_sublist _).subset h

theorem mem_of_mem_back {items : List Node} {n : Node} (h : n ∈ back referred last items) :
    n ∈ items := List.mem_reverse.1 ((List.takeWhile_sublist _).subset (List.mem_reverse.1 h))

/-- Each part of a plan is made of a part of the node. -/
theorem Folded.plan {n : Node} (h : n.Folded) :
    ∀ last p, n.plan? referred last = some p → p.Folded := by
  induction h with
  | alternation h ih =>
      intro last p hp
      rw [plan?.eq_def] at hp
      split_ifs at hp
      · exact (Folded.alternation h).automatic hp
      · obtain ⟨ps, hps, rfl⟩ := Option.map_eq_some_iff.1 hp
        exact .alternation (folded_plans ih hps)
  | @row items h ih =>
      intro last p hp
      rw [plan?.eq_def] at hp
      split_ifs at hp
      · exact (Folded.row h).automatic hp
      · obtain ⟨each, heach, hp⟩ := Option.bind_eq_some_iff.1 hp
        obtain ⟨atFront, hfront, hp⟩ := Option.bind_eq_some_iff.1 hp
        obtain ⟨atBack, hback, rfl⟩ := Option.map_eq_some_iff.1 hp
        have hitems := folded_plans ih heach
        apply Plan.Folded.row
        simp only [List.mem_append]
        rintro q ((hq | hq) | hq)
        · exact folded_automaticRow (fun n hn => h n (mem_of_mem_front hn)) hfront q hq
        · exact hitems q (List.mem_of_mem_drop (List.mem_of_mem_take hq))
        · exact folded_automaticRow
            (fun n hn => h n (List.mem_of_mem_drop (mem_of_mem_back hn))) hback q hq
  | repeated min max lazy h ih =>
      intro last p hp
      rw [plan?.eq_def] at hp
      split_ifs at hp
      · exact (Folded.repeated min max lazy h).automatic hp
      · obtain ⟨item, hitem, rfl⟩ := Option.map_eq_some_iff.1 hp
        exact .repeated min max lazy (ih _ _ hitem)
  | capture number h ih =>
      intro last p hp
      rw [plan?.eq_def] at hp
      split_ifs at hp
      · exact (Folded.capture number h).automatic hp
      · obtain ⟨body, hbody, rfl⟩ := Option.map_eq_some_iff.1 hp
        exact .capture number (ih _ _ hbody)
  | group h ih =>
      intro last p hp
      rw [plan?.eq_def] at hp
      split_ifs at hp
      · exact (Folded.group h).automatic hp
      · exact ih _ _ hp
  | reference number =>
      intro last p hp
      rw [plan?.eq_def] at hp
      split_ifs at hp
      · exact (Folded.reference number).automatic hp
      · cases hp
        exact .reference number
  | border atStart multiline =>
      intro last p hp
      rw [plan?.eq_def] at hp
      split_ifs at hp
      · exact (Folded.border atStart multiline).automatic hp
      · cases hp
        exact .border atStart multiline
  | set h =>
      intro last p hp
      rw [plan?.eq_def] at hp
      split_ifs at hp
      · exact (Folded.set h).automatic hp
      · cases hp
        exact .set h

end Node

end Host

end SchemaPattern
