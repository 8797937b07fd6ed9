import SchemaPattern.Proofs.Lexer.Places
import SchemaPattern.Proofs.Parser.Faults

/-!
# Places of faults

The parser keeps the place of the lexeme that it took last, and while it reads a construct of
several lexemes the place where that begins.  So a fault spans lexemes from one to the same or a
later one, and where the lexer fails, whatever the parser finds wrong before stands before.
-/

namespace SchemaPattern

namespace Lexer

/-! ## Items in their order -/

section

variable {n : Nat} {its : List Item} {l : Lexeme} {f : LexicalFault}

theorem InOrder.le_lexeme (h : InOrder n its) (hl : .lexeme l ∈ its) : n ≤ l.range.index := by
  induction h with
  | nil => cases hl
  | lexeme h hrest ih =>
      rcases List.mem_cons.1 hl with heq | hl
      · cases heq
        exact h
      · have := ih hl
        omega
  | fault h => simp at hl

theorem InOrder.le_fault (h : InOrder n its) (hf : .fault f ∈ its) : n ≤ f.place.index := by
  induction h with
  | nil => cases hf
  | lexeme h hrest ih =>
      have := ih (by simpa using hf)
      omega
  | fault h =>
      cases List.mem_singleton.1 hf
      exact h

theorem InOrder.lexeme_le_fault (h : InOrder n its) (hl : .lexeme l ∈ its) (hf : .fault f ∈ its) :
    l.range.index + l.range.length ≤ f.place.index := by
  induction h with
  | nil => cases hf
  | lexeme h hrest ih =>
      have hf' := List.mem_of_ne_of_mem (by simp) hf
      rcases List.mem_cons.1 hl with heq | hl
      · cases heq
        exact hrest.le_fault hf'
      · exact ih hl hf'
  | fault h => simp at hl

/-- A fault is the last of the items. -/
theorem InOrder.eq_of_fault (h : InOrder n its) (hf : .fault f ∈ its) :
    ∃ ls, its = Parser.items ls ++ [.fault f] := by
  induction h with
  | nil => cases hf
  | lexeme h hrest ih =>
      obtain ⟨ls, rfl⟩ := ih (by simpa using hf)
      exact ⟨_ :: ls, rfl⟩
  | fault h =>
      cases List.mem_singleton.1 hf
      exact ⟨[], rfl⟩

theorem InOrder.fault_unique (h : InOrder n its) (hf : .fault f ∈ its) {g : LexicalFault}
    (hg : .fault g ∈ its) : g = f := by
  obtain ⟨ls, rfl⟩ := h.eq_of_fault hf
  simpa [Parser.items] using hg

/-- Somewhere between the lexemes and the items behind them. -/
theorem InOrder.between {ls : List Lexeme} (h : InOrder n (Parser.items ls ++ its)) :
    ∃ m, n ≤ m ∧ InOrder m its ∧ ∀ l ∈ ls, l.range.index + l.range.length ≤ m := by
  induction ls generalizing n with
  | nil => exact ⟨n, Nat.le_refl n, h, by simp⟩
  | cons l ls ih =>
      cases h with
      | lexeme hbegin hrest =>
          obtain ⟨m, hle, horder, hends⟩ := ih hrest
          exact ⟨m, by omega, horder, List.forall_mem_cons.2 ⟨hle, hends⟩⟩

end

end Lexer

namespace Parser

open Lexer (Item InOrder)

/-! ## Places in states -/

theorem lastRange_append (place : Location) (ls more : List Lexeme) :
    lastRange place (ls ++ more) = lastRange (lastRange place ls) more :=
  List.foldl_append

theorem lastRange_mem {place : Location} {ls : List Lexeme} (h : ls ≠ []) :
    ∃ l ∈ ls, lastRange place ls = l.range := by
  obtain ⟨front, l, rfl⟩ := (List.eq_nil_or_concat ls).resolve_left h
  refine ⟨l, by simp, ?_⟩
  rw [List.concat_eq_append, lastRange_append]
  rfl

/-- No lexeme begins behind the last one. -/
theorem index_le_lastRange {n : Nat} {place : Location} {ls : List Lexeme} {its : List Item}
    (h : InOrder n (items ls ++ its)) {l : Lexeme} (hl : l ∈ ls) :
    l.range.index ≤ (lastRange place ls).index := by
  obtain ⟨front, last, rfl⟩ := (List.eq_nil_or_concat ls).resolve_left (List.ne_nil_of_mem hl)
  rw [List.concat_eq_append] at h hl ⊢
  rw [lastRange_append]
  rw [items_append, List.append_assoc] at h
  obtain ⟨m, -, hbehind, hends⟩ := h.between
  have hlast : m ≤ last.range.index := hbehind.le_lexeme (.head _)
  rcases List.mem_append.1 hl with hl | hl
  · have := hends l hl
    exact Nat.le_trans (by omega) hlast
  · rw [List.mem_singleton.1 hl]
    exact Nat.le_refl _

/-- Where a construct begins that is being read. -/
def Mode.start? : Mode → Option Location
  | minimum _ start | comma _ start _ | maximum _ start _ | reference _ start
  | rangeEnd _ _ start => some start
  | branch | atom | quantifier _ | closingBrace .. | lazyMark .. | members _ | closing .. => none

/-- The places in a state are those of the lexemes that have been taken. -/
structure Marks (ls : List Lexeme) (st : State) : Prop where
  last : st.last = lastRange .origin ls
  start : ∀ p ∈ st.mode.start?, ∃ l ∈ ls, p = l.range

section

variable {flags : Flags} {st next : State} {taken ls : List Lexeme} {rest : List Token}

theorem Moves.last_eq (h : Moves flags st taken rest next) :
    next.last = lastRange st.last taken := by
  cases h <;> rfl

theorem Moves.start_mem (h : Moves flags st taken rest next) :
    ∀ p ∈ next.mode.start?, p ∈ st.mode.start? ∨ ∃ l ∈ taken, p = l.range := by
  cases h with
  | openReference | openBrace | dash => simp [Mode.start?]
  | minimum hmode | comma hmode | digit hmode => simp [Mode.start?, hmode]
  | _ => simp_all [Mode.start?, State.withAtom, State.withPiece, State.openGroup, State.closeGroup]

theorem Marks.moves (h : Marks ls st) (hmove : Moves flags st taken rest next) :
    Marks (ls ++ taken) next where
  last := by rw [hmove.last_eq, h.last, lastRange_append]
  start p hp := by
    rcases hmove.start_mem p hp with hp | ⟨l, hl, rfl⟩
    · obtain ⟨l, hl, rfl⟩ := h.start p hp
      exact ⟨l, List.mem_append_left _ hl, rfl⟩
    · exact ⟨l, List.mem_append_right _ hl, rfl⟩

theorem Reaches.marks {its taken rest : List Item} (h : Reaches flags its taken rest st) :
    ∃ ls, taken = items ls ∧ Marks ls st :=
  h.invariant (motive := fun ls _ st => Marks ls st) ⟨rfl, nofun⟩
    fun _ _ _ _ _ hmarks hmoves => hmarks.moves hmoves

end

end Parser

/-! ## Places of faults -/

/-- A fault from one lexeme to another does not end before it begins. -/
def Fault.Forward : Fault → Prop
  | bounds _ _ first last | charRange _ _ first last | backReference _ first last =>
      first.index ≤ last.index
  | modifier .. | lexical _ | grammar .. | unknownEscape .. | host _ => True

theorem Location.end_join {first last : Location} (h : first.index ≤ last.index) :
    (first.join last).index + (first.join last).length = last.index + last.length := by
  simp only [join, withLength]
  omega

namespace Parser

open Lexer (Item InOrder)

section

variable {st : State} {ls : List Lexeme} {its : List Item} {f : Fault}

/-- What is being read began before the items to come. -/
theorem Marks.start_le (hmarks : Marks ls st) (horder : InOrder 0 (items ls ++ its))
    {start : Location} (hstart : st.mode.start? = some start) {l : Lexeme}
    (hl : .lexeme l ∈ its) : start.index ≤ l.range.index := by
  obtain ⟨m, -, hits, hends⟩ := horder.between
  obtain ⟨begin, hbegin, rfl⟩ := hmarks.start start hstart
  have hend := hends begin hbegin
  have hle := hits.le_lexeme hl
  omega

theorem Marks.start_le_last (hmarks : Marks ls st) (horder : InOrder 0 (items ls ++ its))
    {start : Location} (hstart : st.mode.start? = some start) : start.index ≤ st.last.index := by
  obtain ⟨begin, hbegin, rfl⟩ := hmarks.start start hstart
  rw [hmarks.last]
  exact index_le_lastRange horder hbegin

theorem Fails.forward (h : Fails st its f) (hmarks : Marks ls st)
    (horder : InOrder 0 (items ls ++ its)) : f.Forward := by
  cases h with
  | bounds hmode h hbounds hrest =>
      subst h
      exact hmarks.start_le horder (by rw [hmode]; rfl) (.head _)
  | braced hmode h hbounds =>
      subst h
      exact hmarks.start_le horder (by rw [hmode]; rfl) (.tail _ (.head _))
  | charRange hmode h hhigh hlt =>
      subst h
      exact hmarks.start_le horder (by rw [hmode]; rfl) (.head _)
  | backReference hmode hclosed => exact hmarks.start_le_last horder (by rw [hmode]; rfl)
  | lexical | unexpected | ended | unknownEscape => trivial

/-- Where a lexical fault is still to come, it is what the parser fails with, or what it fails with
ends before. -/
theorem Fails.before_fault (h : Fails st its f) (hmarks : Marks ls st)
    (horder : InOrder 0 (items ls ++ its)) {g : LexicalFault} (hg : .fault g ∈ its) :
    f = .lexical g ∨ f.kind ≠ .lexical ∧ (∀ expected place, f ≠ .grammar none expected place) ∧
      ∃ place, f.report.location = some place ∧ place.index + place.length ≤ g.place.index := by
  obtain ⟨m, -, hits, hends⟩ := horder.between
  have hforward := h.forward hmarks horder
  have hjoin {first last : Location} (hle : first.index ≤ last.index)
      (hlast : last.index + last.length ≤ g.place.index) :
      ∃ place, some (first.join last) = some place ∧
        place.index + place.length ≤ g.place.index :=
    ⟨_, rfl, by rwa [Location.end_join hle]⟩
  cases h with
  | lexical hf => exact .inl (congrArg Fault.lexical (hits.fault_unique hg hf))
  | ended h =>
      subst h
      simp [items] at hg
  | unexpected hl =>
      exact .inr ⟨by simp [Fault.kind], by simp, _, rfl, hits.lexeme_le_fault hl hg⟩
  | unknownEscape h hname hchars =>
      subst h
      exact .inr ⟨by simp [Fault.kind], by simp, _, rfl, hits.lexeme_le_fault (.head _) hg⟩
  | bounds hmode h hbounds hrest =>
      subst h
      refine .inr ⟨by simp [Fault.kind], by simp, hjoin hforward ?_⟩
      exact hits.lexeme_le_fault (.head _) hg
  | braced hmode h hbounds =>
      subst h
      refine .inr ⟨by simp [Fault.kind], by simp, hjoin hforward ?_⟩
      exact hits.lexeme_le_fault (.tail _ (.head _)) hg
  | charRange hmode h hhigh hlt =>
      subst h
      refine .inr ⟨by simp [Fault.kind], by simp, hjoin hforward ?_⟩
      exact hits.lexeme_le_fault (.head _) hg
  | backReference hmode hclosed =>
      refine .inr ⟨by simp [Fault.kind], by simp, hjoin hforward ?_⟩
      obtain ⟨begin, hbegin, -⟩ := hmarks.start _ (by rw [hmode]; rfl)
      obtain ⟨last, hlast, heq⟩ := @lastRange_mem .origin ls (List.ne_nil_of_mem hbegin)
      rw [hmarks.last, heq]
      exact Nat.le_trans (hends last hlast) (hits.le_fault hg)

end

end Parser

end SchemaPattern
