import SchemaPattern.Proofs.Lexer.Run
import SchemaPattern.Proofs.Parser.Run

/-!
# Calls to a window

Whoever reads from a window looks at items to come and takes the next one, in any order.  The
answers are those that the list of all items gives, and the window pulls no item before the one
that it is wide beyond what has been taken.  So the lexer and the parser, each of which reads
through a window, do what they would do with lists.
-/

namespace SchemaPattern

/-! ## Calls -/

/-- To look at an item to come, or to take the next one. -/
inductive Call
  | peek (offset : Nat)
  | next
  deriving DecidableEq, Repr, Inhabited

namespace Call

/-- How far behind the items that have been taken the item stands that a call asks for. -/
def offset : Call → Nat
  | peek offset => offset
  | next => 0

/-- The items that calls with these answers have taken. -/
def taken {α : Type} : List Call → List (Option α) → List α
  | next :: cs, some a :: answers => a :: taken cs answers
  | _ :: cs, _ :: answers => taken cs answers
  | _, _ => []

end Call

namespace Feed

variable {σ α : Type} [Feed σ α]

/-- The answer to a call, and the feed behind it. -/
def call (s : σ) : Call → Option α × σ
  | .peek offset => (peek s offset, s)
  | .next =>
      match Source.pull s with
      | none => (none, s)
      | some (a, t) => (some a, t)

/-- The answers to calls one after the other, and the feed behind the last of them. -/
def calls (s : σ) : List Call → List (Option α) × σ
  | [] => ([], s)
  | c :: cs =>
      let later := calls (call s c).2 cs
      ((call s c).1 :: later.1, later.2)

end Feed

/-! ## Pulling -/

namespace Source

variable {σ α : Type} [Source σ α]

/-- What is left of a source from which exactly so many items have been pulled. -/
inductive Pulled : Nat → σ → σ → Prop
  | zero {s : σ} : Pulled 0 s s
  | succ {n : Nat} {s t u : σ} {a : α} (h : Pulled n s t) (hpull : pull t = some (a, u)) :
      Pulled (n + 1) s u

theorem Pulled.cons {n : Nat} {s t u : σ} {a : α} (hpull : pull s = some (a, t))
    (h : Pulled n t u) : Pulled (n + 1) s u := by
  induction h with
  | zero => exact .succ .zero hpull
  | succ h hlast ih => exact .succ (ih hpull) hlast

theorem Pulled.toList_eq {n : Nat} {s t : σ} (h : Pulled n s t) :
    toList t = (toList s).drop n := by
  induction h with
  | zero => simp
  | succ h hpull ih =>
      rw [toList_of_pull_some hpull] at ih
      rw [← List.tail_drop, ← ih, List.tail_cons]

theorem pull_of_toList_nil {s : σ} (h : toList s = []) : pull s = none := by
  cases hpull : pull s with
  | none => rfl
  | some pulled => simp [toList_of_pull_some hpull] at h

theorem pull_of_toList_cons {s : σ} {a : α} {rest : List α} (h : toList s = a :: rest) :
    ∃ t, pull s = some (a, t) := by
  cases hpull : pull s with
  | none => simp [toList_of_pull_none hpull] at h
  | some pulled =>
      simp only [toList_of_pull_some hpull, List.cons.injEq] at h
      exact ⟨pulled.2, by rw [← h.1]⟩

end Source

/-! ## Windows -/

namespace Window

variable {σ α : Type} [Source σ α]

/-- The window stands behind so many items of a source: it holds as many of those that follow as it
is wide, and has pulled no others. -/
structure Behind (width : Nat) (s : σ) (count : Nat) (w : Window σ α) : Prop where
  buffer_eq : w.buffer = ((Source.toList s).drop count).take width
  pulled : Source.Pulled (min (count + width) (Source.toList s).length) s w.source

theorem fill_behind (width : Nat) (s : σ) : (fill width s).Behind width s 0 := by
  induction width generalizing s with
  | zero => exact ⟨by simp [fill], by simpa [fill] using .zero⟩
  | succ width ih =>
      unfold fill
      cases hpull : Source.pull s with
      | none =>
          have hitems := Source.toList_of_pull_none hpull
          exact ⟨by simp [hitems], by simpa [hitems] using .zero⟩
      | some pulled =>
          obtain ⟨a, t⟩ := pulled
          have hitems := Source.toList_of_pull_some hpull
          obtain ⟨hbuffer, hpulled⟩ := ih t
          constructor
          · simpa [hitems] using hbuffer
          · have hcount : min (0 + (width + 1)) (Source.toList s).length =
                min (0 + width) (Source.toList t).length + 1 := by
              simp only [hitems, List.length_cons]
              omega
            rw [hcount]
            exact .cons hpull hpulled

section

variable {width count : Nat} {s : σ} {w : Window σ α}

theorem Behind.peek_eq (h : w.Behind width s count) {offset : Nat} (hoffset : offset < width) :
    Feed.peek w offset = (Source.toList s)[count + offset]? := by
  change w.buffer[offset]? = _
  rw [h.buffer_eq, List.getElem?_take_of_lt hoffset, List.getElem?_drop]

/-- At the end of the source a window stays as it is. -/
theorem Behind.next_none (h : w.Behind width s count)
    (hend : (Source.toList s).length ≤ count) :
    w.next = none ∧ w.Behind width s (count + 1) := by
  have hbuffer : w.buffer = [] := by
    rw [h.buffer_eq, List.drop_eq_nil_of_le hend, List.take_nil]
  refine ⟨by simp [next, hbuffer], ?_, ?_⟩
  · rw [hbuffer, List.drop_eq_nil_of_le (by omega), List.take_nil]
  · have hcount : min (count + 1 + width) (Source.toList s).length =
        min (count + width) (Source.toList s).length := by omega
    rw [hcount]
    exact h.pulled

theorem Behind.next_some (hwidth : 0 < width) (h : w.Behind width s count)
    (hlt : count < (Source.toList s).length) :
    ∃ v, w.next = some ((Source.toList s)[count], v) ∧ v.Behind width s (count + 1) := by
  obtain ⟨buffer, source⟩ := w
  obtain ⟨hbuffer, hpulled⟩ := h
  obtain ⟨width, rfl⟩ := Nat.exists_eq_succ_of_ne_zero (Nat.ne_of_gt hwidth)
  let later := ((Source.toList s).drop (count + 1)).take width
  have hfirst : buffer = (Source.toList s)[count] :: later := by
    rwa [List.drop_eq_getElem_cons hlt, List.take_succ_cons] at hbuffer
  have hsource := hpulled.toList_eq
  by_cases hlast : count + (width + 1) < (Source.toList s).length
  · -- Another item is pulled, and put behind those of the buffer.
    rw [Nat.min_eq_left (by omega)] at hpulled hsource
    rw [List.drop_eq_getElem_cons hlast] at hsource
    obtain ⟨t, ht⟩ := Source.pull_of_toList_cons hsource
    refine ⟨⟨later ++ [(Source.toList s)[count + (width + 1)]], t⟩, ?_, ?_, ?_⟩
    · simp [next, hfirst, ht]
    · have hend : width < ((Source.toList s).drop (count + 1)).length := by
        rw [List.length_drop]
        omega
      have hindex : count + 1 + width = count + (width + 1) := by omega
      simp only [later, List.take_succ_eq_append_getElem hend, List.getElem_drop, hindex]
    · rw [Nat.min_eq_left (by omega), Nat.add_right_comm]
      exact .succ hpulled ht
  · -- The source has ended.
    rw [Nat.min_eq_right (by omega)] at hpulled hsource
    rw [List.drop_length] at hsource
    have hnone := Source.pull_of_toList_nil hsource
    refine ⟨⟨later, source⟩, by simp [next, hfirst, hnone], ?_, ?_⟩
    · have hlength : ((Source.toList s).drop (count + 1)).length ≤ width := by
        rw [List.length_drop]
        omega
      have hlength' := Nat.le_succ_of_le hlength
      simp [later, List.take_of_length_le hlength, List.take_of_length_le hlength']
    · rwa [Nat.min_eq_right (by omega)]

theorem Behind.toList_eq (hwidth : 0 < width) (h : w.Behind width s count) :
    Source.toList w = (Source.toList s).drop count := by
  induction hleft : (Source.toList s).length - count generalizing w count with
  | zero =>
      have hend : (Source.toList s).length ≤ count := by omega
      rw [List.drop_eq_nil_of_le hend]
      exact Source.toList_of_pull_none (h.next_none hend).1
  | succ left ih =>
      have hlt : count < (Source.toList s).length := by omega
      obtain ⟨v, hnext, hv⟩ := h.next_some hwidth hlt
      rw [List.drop_eq_getElem_cons hlt, ← ih hv (by omega)]
      exact Source.toList_of_pull_some hnext

/-! ## Runs of calls -/

/-- The answer to one call, and where the window stands behind it. -/
theorem Behind.call (hwidth : 0 < width) (h : w.Behind width s count) {c : Call}
    (hc : c.offset < width) :
    (Feed.call w c).1 = (Source.toList s)[count + c.offset]? ∧
      (Feed.call w c).2.Behind width s (count + [c].count .next) := by
  cases c with
  | peek offset => exact ⟨h.peek_eq hc, h⟩
  | next =>
      rcases Nat.lt_or_ge count (Source.toList s).length with hlt | hend
      · obtain ⟨v, hnext, hv⟩ := h.next_some hwidth hlt
        have hpull : Source.pull w = some ((Source.toList s)[count], v) := hnext
        simpa [Feed.call, hpull, Call.offset, hlt] using hv
      · obtain ⟨hnext, hbehind⟩ := h.next_none hend
        have hpull : Source.pull w = none := hnext
        simpa [Feed.call, hpull, Call.offset, hend] using hbehind

/-- The answers to calls, and where the window stands behind all of them. -/
theorem Behind.calls (hwidth : 0 < width) (h : w.Behind width s count) {cs : List Call}
    (hcs : ∀ c ∈ cs, c.offset < width) :
    (Feed.calls w cs).2.Behind width s (count + cs.count .next) ∧
      ∀ i c, cs[i]? = some c → (Feed.calls w cs).1[i]? =
        some (Source.toList s)[count + (cs.take i).count .next + c.offset]? := by
  induction cs generalizing w count with
  | nil => exact ⟨h, by simp⟩
  | cons c cs ih =>
      obtain ⟨hc, hcs⟩ := List.forall_mem_cons.1 hcs
      obtain ⟨hanswer, hbehind⟩ := h.call hwidth hc
      obtain ⟨hlast, hanswers⟩ := ih hbehind hcs
      rw [Nat.add_assoc, ← List.count_append] at hlast
      refine ⟨hlast, fun i c' hc' => ?_⟩
      cases i with
      | zero =>
          cases hc'
          simp [Feed.calls, hanswer]
      | succ i =>
          have hcount : ((c :: cs).take (i + 1)).count .next =
              [c].count .next + (cs.take i).count .next := by
            rw [← List.count_append]
            rfl
          rw [hcount, ← Nat.add_assoc]
          exact hanswers i c' hc'

/-- What is taken is what there is, in its order. -/
theorem Behind.taken (hwidth : 0 < width) (h : w.Behind width s count) {cs : List Call}
    (hcs : ∀ c ∈ cs, c.offset < width) :
    Call.taken cs (Feed.calls w cs).1 =
      ((Source.toList s).drop count).take (cs.count .next) := by
  induction cs generalizing w count with
  | nil => simp [Call.taken]
  | cons c cs ih =>
      obtain ⟨hc, hcs⟩ := List.forall_mem_cons.1 hcs
      obtain ⟨hanswer, hbehind⟩ := h.call hwidth hc
      have hlater := ih hbehind hcs
      cases c with
      | peek offset => simpa [Feed.calls, Call.taken] using hlater
      | next =>
          rcases Nat.lt_or_ge count (Source.toList s).length with hlt | hend
          · have hfirst : (Feed.call w .next).1 = some (Source.toList s)[count] := by
              simpa [Call.offset, hlt] using hanswer
            rw [List.drop_eq_getElem_cons hlt, List.count_cons_self, List.take_succ_cons]
            simp only [Feed.calls, hfirst, Call.taken]
            exact congrArg _ hlater
          · have hfirst : (Feed.call w .next).1 = none := by
              simpa [Call.offset, hend] using hanswer
            have hnil : (Source.toList s).drop (count + 1) = [] :=
              List.drop_eq_nil_of_le (Nat.le_succ_of_le hend)
            simpa [Feed.calls, hfirst, Call.taken, hnil, List.drop_eq_nil_of_le hend] using hlater

end

end Window

/-- However the calls are mixed, a window answers them from the items that have not been taken,
loses none of those, and has pulled no more of them than it is wide.  A pattern is parsed through
two windows as it is with the lists of its characters and of its tokens. -/
theorem windows_transparent {σ α : Type} [Source σ α] (s : σ) {width : Nat} (hwidth : 0 < width)
    {cs : List Call} (hcs : ∀ c ∈ cs, c.offset < width) :
    let items := Source.toList s
    let answers := (Feed.calls (Window.fill width s) cs).1
    let w := (Feed.calls (Window.fill width s) cs).2
    let taken := Call.taken cs answers
    (∀ i c, cs[i]? = some c →
        answers[i]? = some items[(cs.take i).count .next + c.offset]?) ∧
      taken ++ Source.toList w = items ∧
      Source.Pulled (min (taken.length + width) items.length) s w.source ∧
      ∀ flags pattern,
        parsePattern flags pattern = parseItems flags (patternItems flags pattern) ∧
          patternItems flags pattern =
            Lexer.itemsFrom flags {} (placed .origin pattern.toList) := by
  intro items answers w taken
  obtain ⟨hbehind, hanswers⟩ := (Window.fill_behind width s).calls hwidth hcs
  have htaken : taken = items.take (cs.count .next) :=
    (Window.fill_behind width s).taken hwidth hcs
  rw [Nat.zero_add] at hbehind
  refine ⟨by simpa using hanswers, ?_, ?_, fun flags pattern => ?_⟩
  · rw [htaken, hbehind.toList_eq hwidth, List.take_append_drop]
  · have hcount : min (taken.length + width) items.length =
        min (cs.count .next + width) items.length := by
      rw [htaken, List.length_take]
      omega
    rw [hcount]
    exact hbehind.pulled
  · exact ⟨parsePattern_eq flags pattern, patternItems_eq flags pattern⟩

/-- Four items are asked for where there are three, with a look ahead between the first two. -/
theorem windows_transparent_ended :
    let s := ['a', 'b', 'c']
    let cs : List Call := [.next, .peek 1, .next, .next, .next]
    let answers := (Feed.calls (Window.fill 2 s) cs).1
    let w := (Feed.calls (Window.fill 2 s) cs).2
    (0 < 2 ∧ ∀ c ∈ cs, c.offset < 2) ∧
      answers = [some 'a', some 'c', some 'b', some 'c', none] ∧
      Call.taken cs answers ++ Source.toList w = s ∧
      Source.Pulled 3 s w.source ∧
      parsePattern {} "a" = parseItems {} (patternItems {} "a") := by
  intro s cs answers w
  have hcs : ∀ c ∈ cs, c.offset < 2 := by decide
  have hanswers : answers = [some 'a', some 'c', some 'b', some 'c', none] := rfl
  have hitems : Source.toList s = s := toList_list s
  have h := windows_transparent s (by decide : 0 < 2) hcs
  simp only [hitems] at h
  obtain ⟨-, hlist, hpulled, hparse⟩ := h
  exact ⟨⟨by decide, hcs⟩, hanswers, hlist, hpulled, (hparse {} "a").1⟩

end SchemaPattern
