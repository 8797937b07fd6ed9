/-!
# Reading ahead

A source yields items one at a time and ends.  A feed also shows items that are still to come.  A
window makes a feed of a source: it keeps the next few items in a buffer, and refills the buffer as
items are taken.
-/

namespace SchemaPattern

/-- Something that yields finitely many items. -/
class Source (σ : Type) (α : outParam Type) where
  pull : σ → Option (α × σ)
  /-- A bound on the number of items to come. -/
  size : σ → Nat
  size_lt : ∀ {s : σ} {a : α} {t : σ}, pull s = some (a, t) → size t < size s

/-- A source that shows what is to come; `peek s 0` is the item that would be pulled. -/
class Feed (σ : Type) (α : outParam Type) extends Source σ α where
  peek : σ → Nat → Option α
  peek_zero : ∀ s, peek s 0 = (pull s).map Prod.fst

namespace Source

variable {σ α : Type} [Source σ α]

def toList (s : σ) : List α :=
  match _ : pull s with
  | none => []
  | some (a, t) => a :: toList t
  termination_by size s
  decreasing_by exact size_lt ‹_›

def drop : Nat → σ → σ
  | 0, s => s
  | n + 1, s =>
      match pull s with
      | none => s
      | some (_, t) => drop n t

theorem size_drop_le (n : Nat) (s : σ) : size (drop n s) ≤ size s := by
  induction n generalizing s with
  | zero => exact Nat.le_refl _
  | succ n ih =>
    unfold drop
    split
    · exact Nat.le_refl _
    · next h => exact Nat.le_trans (ih _) (Nat.le_of_lt (size_lt h))

theorem size_drop_lt {n : Nat} {s : σ} (hn : 0 < n) (hs : (pull s).isSome) :
    size (drop n s) < size s := by
  obtain ⟨m, rfl⟩ := Nat.exists_eq_succ_of_ne_zero (Nat.ne_of_gt hn)
  unfold drop
  split
  · next h => simp [h] at hs
  · next h => exact Nat.lt_of_le_of_lt (size_drop_le _ _) (size_lt h)

end Source

theorem Feed.isSome_pull {σ α : Type} [Feed σ α] {s : σ} {a : α} (h : Feed.peek s 0 = some a) :
    (Source.pull s).isSome := by
  rw [Feed.peek_zero] at h
  cases hp : Source.pull s <;> simp [hp] at h ⊢

/-! ## Lists -/

instance {α : Type} : Feed (List α) α where
  pull
    | [] => none
    | a :: rest => some (a, rest)
  size := List.length
  size_lt {s a t} h := by
    cases s <;> simp_all
  peek s n := s[n]?
  peek_zero s := by cases s <;> rfl

/-! ## Windows -/

/-- The next items of a source, pulled already, and the source that yields those after them. -/
structure Window (σ α : Type) where
  buffer : List α
  source : σ

namespace Window

variable {σ α : Type} [Source σ α]

def fill : Nat → σ → Window σ α
  | 0, s => ⟨[], s⟩
  | width + 1, s =>
      match Source.pull s with
      | none => ⟨[], s⟩
      | some (a, t) =>
          let w := fill width t
          ⟨a :: w.buffer, w.source⟩

def peek (w : Window σ α) (offset : Nat) : Option α := w.buffer[offset]?

/-- Takes the first item of the buffer and pulls another one behind the last. -/
def next (w : Window σ α) : Option (α × Window σ α) :=
  match w.buffer with
  | [] => none
  | a :: rest =>
      match Source.pull w.source with
      | none => some (a, ⟨rest, w.source⟩)
      | some (b, t) => some (a, ⟨rest ++ [b], t⟩)

def size (w : Window σ α) : Nat := w.buffer.length + Source.size w.source

theorem size_next {w v : Window σ α} {a : α} (h : w.next = some (a, v)) : v.size < w.size := by
  unfold next at h
  split at h
  · simp at h
  · next hb =>
    split at h <;> simp only [Option.some.injEq, Prod.mk.injEq] at h <;> obtain ⟨-, rfl⟩ := h
    · simp [size, hb]
    · next hp =>
      have := Source.size_lt hp
      simp [size, hb]
      omega

instance : Feed (Window σ α) α where
  pull := next
  size := size
  size_lt := size_next
  peek := peek
  peek_zero w := by
    rcases w with ⟨_ | ⟨a, rest⟩, s⟩
    · rfl
    · cases h : Source.pull s <;> simp [peek, next, h]

end Window

end SchemaPattern
