import Mathlib.Data.List.Basic
import SchemaPattern.Lookahead

/-!
# Windows show what their sources yield

A window of width at least one yields the items of its source, and shows as many of those to come
as it is wide.
-/

namespace SchemaPattern

namespace Source

variable {σ α : Type} [Source σ α]

theorem toList_of_pull_none {s : σ} (h : pull s = none) : toList s = [] := by
  rw [toList]
  split <;> simp_all

theorem toList_of_pull_some {s t : σ} {a : α} (h : pull s = some (a, t)) :
    toList s = a :: toList t := by
  rw [toList]
  split <;> simp_all

end Source

namespace Window

variable {σ α : Type} [Source σ α]

/-- The items to come are those of the buffer and the source, and the buffer is full unless the
source has ended. -/
structure Shows (width : Nat) (w : Window σ α) (items : List α) : Prop where
  items_eq : w.buffer ++ Source.toList w.source = items
  full : w.buffer.length = width ∨ Source.toList w.source = []

theorem fill_shows (width : Nat) (s : σ) : (fill width s).Shows width (Source.toList s) := by
  induction width generalizing s with
  | zero => exact ⟨rfl, .inl rfl⟩
  | succ width ih =>
      unfold fill
      split
      · next h => exact ⟨rfl, .inr (Source.toList_of_pull_none h)⟩
      · next a t h =>
        obtain ⟨hitems, hfull⟩ := ih t
        refine ⟨?_, hfull.imp (congrArg (· + 1)) id⟩
        rw [Source.toList_of_pull_some h, ← hitems]
        rfl

variable {width : Nat} {w : Window σ α} {items : List α}

theorem Shows.peek_eq (h : w.Shows width items) {n : Nat} (hn : n < width) :
    w.peek n = items[n]? := by
  obtain ⟨rfl, hfull⟩ := h
  rcases hfull with hfull | hend
  · rw [peek, List.getElem?_append_left (by omega)]
  · rw [peek, hend, List.append_nil]

theorem Shows.next_eq (hwidth : 0 < width) (h : w.Shows width items) :
    (items = [] ∧ w.next = none) ∨
      ∃ a rest v, items = a :: rest ∧ w.next = some (a, v) ∧ v.Shows width rest := by
  obtain ⟨rfl, hfull⟩ := h
  rcases w with ⟨buffer, source⟩
  cases buffer with
  | nil =>
      have hend : Source.toList source = [] := hfull.resolve_left fun h => by
        simp only [List.length_nil] at h
        omega
      exact .inl ⟨hend, rfl⟩
  | cons a rest =>
      refine .inr ⟨a, rest ++ Source.toList source, ?_⟩
      cases hpull : Source.pull source with
      | none =>
          have hend := Source.toList_of_pull_none hpull
          exact ⟨⟨rest, source⟩, rfl, by simp [next, hpull], rfl, .inr hend⟩
      | some pulled =>
          obtain ⟨b, t⟩ := pulled
          have hsource := Source.toList_of_pull_some hpull
          refine ⟨⟨rest ++ [b], t⟩, rfl, by simp [next, hpull], by simp [hsource], ?_⟩
          left
          simpa using hfull.resolve_right (by simp [hsource])

theorem Shows.drop (hwidth : 0 < width) (h : w.Shows width items) (n : Nat) :
    (Source.drop n w).Shows width (items.drop n) := by
  induction n generalizing w items with
  | zero => exact h
  | succ n ih =>
      rcases h.next_eq hwidth with ⟨rfl, hnone⟩ | ⟨a, rest, v, rfl, hnext, hv⟩
      · have hpull : Source.pull w = none := hnone
        simpa [Source.drop, hpull] using h
      · have hpull : Source.pull w = some (a, v) := hnext
        simpa [Source.drop, hpull] using ih hv

end Window

theorem drop_list {α : Type} (n : Nat) (l : List α) : Source.drop n l = l.drop n := by
  induction n generalizing l with
  | zero => rfl
  | succ n ih =>
      cases l with
      | nil => rfl
      | cons a rest => exact ih rest

theorem toList_list {α : Type} (l : List α) : Source.toList l = l := by
  induction l with
  | nil => exact Source.toList_of_pull_none rfl
  | cons a l ih =>
      have hpull : Source.pull (a :: l) = some (a, l) := rfl
      rw [Source.toList_of_pull_some hpull, ih]

end SchemaPattern
