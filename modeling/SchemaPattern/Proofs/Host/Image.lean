import SchemaPattern.Proofs.GroupMarks
import SchemaPattern.Proofs.Host.Class

/-!
# The image of an expression

What the host is to read from the text of an expression: a node for every part of the expression,
of the same kind and in the same place.  Expressions leave their capturing groups without numbers,
so an image keeps count of those that have begun before it and behind it.
-/

namespace SchemaPattern

open Unicode

/-- The set is in normal form and has the characters with the property, and no others. -/
structure CharSet.Comprises (s : CharSet) (property : Char → Prop) : Prop where
  normal : s.Normal
  contains_iff : ∀ x, s.contains x = true ↔ property x

theorem CharSet.Normal.comprises {s : CharSet} (h : s.Normal) {property : Char → Prop}
    (hs : ∀ x, x ∈ s ↔ property x) : s.Comprises property :=
  ⟨h, fun x => h.contains_iff.trans (hs x)⟩

theorem CharSet.Comprises.unique {s t : CharSet} {property : Char → Prop}
    (hs : s.Comprises property) (ht : t.Comprises property) : s = t := by
  refine hs.normal.ext ht.normal fun c => ?_
  rw [← hs.normal.contains_iff, ← ht.normal.contains_iff, hs.contains_iff, ht.contains_iff]

namespace Host

mutual

/-- With `ignoreCase`, what is written in the pattern itself stands for all its case variants. -/
inductive Image (ignoreCase : Bool) : Nat → Expr → Node → Nat → Prop
  | disjunction {n m : Nat} {branches : List Expr} {nodes : List Node}
      (h : Images ignoreCase n branches nodes m) :
      Image ignoreCase n (.disjunction branches) (.alternation nodes) m
  | branch {n m : Nat} {pieces : List Expr} {nodes : List Node}
      (h : Images ignoreCase n pieces nodes m) :
      Image ignoreCase n (.branch pieces) (.row nodes) m
  | piece {n m : Nat} {atom : Expr} {node : Node} (q : Quantifier)
      (h : Image ignoreCase n atom node m) :
      Image ignoreCase n (.piece atom q) (.repeated node q.min q.max q.lazy) m
  | capturing {n m : Nat} {body : Expr} {node : Node} (h : Image ignoreCase (n + 1) body node m) :
      Image ignoreCase n (.group true body) (.capture (n + 1) node) m
  | nonCapturing {n m : Nat} {body : Expr} {node : Node} (h : Image ignoreCase n body node m) :
      Image ignoreCase n (.group false body) (.group node) m
  | backReference (n index : Nat) :
      Image ignoreCase n (.backReference index) (.group (.reference index ignoreCase)) n
  | border (n : Nat) (atStart multiline : Bool) :
      Image ignoreCase n (.border atStart multiline) (.group (.border atStart multiline)) n
  | anyChar {s : CharSet} (n : Nat) (h : s.Comprises fun _ => True) :
      Image ignoreCase n (.wildcard true) (.group (.set s)) n
  | withinLine {s : CharSet} (n : Nat) (h : s.Comprises fun x => x ≠ '\n' ∧ x ≠ '\r') :
      Image ignoreCase n (.wildcard false) (.set s) n
  | literal {c : Char} {s : CharSet} (n : Nat)
      (h : s.Comprises fun x => if ignoreCase then CaseVariant x c else x = c) :
      Image ignoreCase n (.literal c) (.set s) n
  | charClass {c : CharClass} {s : CharSet} (n : Nat)
      (h : s.Comprises fun x => c.Has ignoreCase x) :
      Image ignoreCase n (.charClass c) (.set s) n
  | escape {e : Escape} {s : CharSet} (n : Nat) (h : s.Comprises fun x => x ∈ e.chars) :
      Image ignoreCase n (.escape e) (.set s) n

/-- Images in a row, each of which counts on from the one before it. -/
inductive Images (ignoreCase : Bool) : Nat → List Expr → List Node → Nat → Prop
  | nil (n : Nat) : Images ignoreCase n [] [] n
  | cons {n k m : Nat} {e : Expr} {es : List Expr} {node : Node} {nodes : List Node}
      (h : Image ignoreCase n e node k) (hrest : Images ignoreCase k es nodes m) :
      Images ignoreCase n (e :: es) (node :: nodes) m

end

section

variable {ignoreCase : Bool} {n m : Nat} {es : List Expr} {nodes : List Node}

theorem Images.ofPieces (h : Images ignoreCase n es nodes m) :
    Image ignoreCase n (.ofPieces es) (.ofItems nodes) m := by
  cases h with
  | nil => exact .branch (.nil n)
  | cons h hrest =>
      cases hrest with
      | nil => exact h
      | cons hnext hrest => exact .branch (.cons h (.cons hnext hrest))

theorem Images.ofBranches (h : Images ignoreCase n es nodes m) :
    Image ignoreCase n (.ofBranches es) (.ofBranches nodes) m := by
  cases h with
  | nil => exact .disjunction (.nil n)
  | cons h hrest =>
      cases hrest with
      | nil => exact h
      | cons hnext hrest => exact .disjunction (.cons h (.cons hnext hrest))

end

/-! ## Uniqueness -/

section

variable {ignoreCase : Bool}

mutual

theorem Image.unique {e : Expr} {node other : Node} : ∀ {n m k : Nat},
    Image ignoreCase n e node m → Image ignoreCase n e other k → node = other ∧ m = k
  | _, _, _, .disjunction h, .disjunction h' => by
      obtain ⟨rfl, rfl⟩ := h.unique h'
      exact ⟨rfl, rfl⟩
  | _, _, _, .branch h, .branch h' => by
      obtain ⟨rfl, rfl⟩ := h.unique h'
      exact ⟨rfl, rfl⟩
  | _, _, _, .piece _ h, .piece _ h' => by
      obtain ⟨rfl, rfl⟩ := h.unique h'
      exact ⟨rfl, rfl⟩
  | _, _, _, .capturing h, .capturing h' => by
      obtain ⟨rfl, rfl⟩ := h.unique h'
      exact ⟨rfl, rfl⟩
  | _, _, _, .nonCapturing h, .nonCapturing h' => by
      obtain ⟨rfl, rfl⟩ := h.unique h'
      exact ⟨rfl, rfl⟩
  | _, _, _, .backReference _ _, .backReference _ _ => ⟨rfl, rfl⟩
  | _, _, _, .border _ _ _, .border _ _ _ => ⟨rfl, rfl⟩
  | _, _, _, .anyChar _ h, .anyChar _ h' => by
      rw [h.unique h']
      exact ⟨rfl, rfl⟩
  | _, _, _, .withinLine _ h, .withinLine _ h' => by
      rw [h.unique h']
      exact ⟨rfl, rfl⟩
  | _, _, _, .literal _ h, .literal _ h' => by
      rw [h.unique h']
      exact ⟨rfl, rfl⟩
  | _, _, _, .charClass _ h, .charClass _ h' => by
      rw [h.unique h']
      exact ⟨rfl, rfl⟩
  | _, _, _, .escape _ h, .escape _ h' => by
      rw [h.unique h']
      exact ⟨rfl, rfl⟩

theorem Images.unique {es : List Expr} {nodes others : List Node} : ∀ {n m k : Nat},
    Images ignoreCase n es nodes m → Images ignoreCase n es others k → nodes = others ∧ m = k
  | _, _, _, .nil _, .nil _ => ⟨rfl, rfl⟩
  | _, _, _, .cons h hrest, .cons h' hrest' => by
      obtain ⟨rfl, rfl⟩ := h.unique h'
      obtain ⟨rfl, rfl⟩ := hrest.unique hrest'
      exact ⟨rfl, rfl⟩

end

end

/-! ## Groups of an image -/

namespace Node

mutual

/-- The capturing groups with their numbers, in the order in which they begin. -/
def captures : Node → List (Nat × Node)
  | alternation branches => capturesOfAll branches
  | row items => capturesOfAll items
  | repeated item _ _ _ => captures item
  | capture number body => (number, body) :: captures body
  | group body => captures body
  | reference _ _ | border _ _ | set _ => []

def capturesOfAll : List Node → List (Nat × Node)
  | [] => []
  | n :: rest => captures n ++ capturesOfAll rest

end

end Node

/-- Groups with the numbers from `n + 1` to `m` and the images of these bodies. -/
inductive Captures (ignoreCase : Bool) : Nat → List Expr → List (Nat × Node) → Nat → Prop
  | nil (n : Nat) : Captures ignoreCase n [] [] n
  | cons {n k m : Nat} {body : Expr} {bodies : List Expr} {inner : Node}
      {groups : List (Nat × Node)} (h : Image ignoreCase (n + 1) body inner k)
      (hrest : Captures ignoreCase (n + 1) bodies groups m) :
      Captures ignoreCase n (body :: bodies) ((n + 1, inner) :: groups) m

section

variable {ignoreCase : Bool} {n k m : Nat} {bodies others : List Expr}
  {groups more : List (Nat × Node)}

theorem Captures.append (h : Captures ignoreCase n bodies groups k)
    (hmore : Captures ignoreCase k others more m) :
    Captures ignoreCase n (bodies ++ others) (groups ++ more) m := by
  induction h with
  | nil => exact hmore
  | cons h hrest ih => exact .cons h (ih hmore)

theorem Captures.count_eq (h : Captures ignoreCase n bodies groups m) :
    m = n + bodies.length := by
  induction h with
  | nil => rfl
  | cons h hrest ih =>
      rw [ih, List.length_cons]
      omega

def capturesOfAll (es : List Expr) : List Expr :=
  (Expr.groupMarksOfAll es).filterMap GroupMark.capture?

mutual

theorem Image.captures {e : Expr} {node : Node} :
    ∀ {n m : Nat}, Image ignoreCase n e node m → Captures ignoreCase n e.captures node.captures m
  | _, _, .disjunction h => h.captures
  | _, _, .branch h => h.captures
  | _, _, .piece _ h => h.captures
  | _, _, .capturing h => by
      rw [Expr.captures, Expr.groupMarks, Grammar.filterMap_group]
      exact .cons h h.captures
  | _, _, .nonCapturing h => by
      rw [Expr.captures, Expr.groupMarks, Grammar.filterMap_group]
      exact h.captures
  | _, _, .backReference n _ | _, _, .border n _ _ | _, _, .anyChar n _ | _, _, .withinLine n _
  | _, _, .literal n _ | _, _, .charClass n _ | _, _, .escape n _ => .nil n

theorem Images.captures {es : List Expr} {nodes : List Node} : ∀ {n m : Nat},
    Images ignoreCase n es nodes m →
      Captures ignoreCase n (capturesOfAll es) (Node.capturesOfAll nodes) m
  | _, _, .nil n => .nil n
  | _, _, .cons h hrest => by
      rw [capturesOfAll, Expr.groupMarksOfAll, List.filterMap_append]
      exact h.captures.append hrest.captures

end

end

end Host

end SchemaPattern
