import SchemaPattern.Proofs.Bounded
import SchemaPattern.Proofs.GroupMarks
import SchemaPattern.Proofs.Lexer.Items

/-!
# How back-references are read

A back-reference takes as many digits as it can while its number is that of a group that has been
opened.  Then the group must be complete, unless a lexical fault stands behind the digits.
-/

namespace SchemaPattern

namespace Parser

open Lexer (Item Decimal)

open Grammar (withDigit)

/-! ## Digits -/

def digits (ds : List (Char × Location)) : List Item :=
  ds.map fun d => .lexeme ⟨.digit d.1, d.2⟩

def withDigits (n : Nat) (ds : List (Char × Location)) : Nat :=
  ds.foldl (fun n d => withDigit n d.1) n

/-- The place of the last digit, or of what stands before the digits. -/
def lastPlace : Location → List (Char × Location) → Location
  | place, [] => place
  | _, d :: ds => lastPlace d.2 ds

/-- The longest run of digits with which a number does not exceed that of the groups opened. -/
structure LongestRun (opened n : Nat) (following : List Item) (ds : List (Char × Location))
    (behind : List Item) : Prop where
  split : following = digits ds ++ behind
  le : ds ≠ [] → withDigits n ds ≤ opened
  longest : ∀ more behind', more ≠ [] → following = digits (ds ++ more) ++ behind' →
    opened < withDigits n (ds ++ more)

theorem le_withDigits (n : Nat) (ds : List (Char × Location)) : n ≤ withDigits n ds := by
  induction ds generalizing n with
  | nil => exact Nat.le_refl _
  | cons d ds ih =>
      have hdigit : n ≤ withDigit n d.1 := by
        unfold withDigit
        omega
      exact Nat.le_trans hdigit (ih _)

theorem LongestRun.stop {opened n : Nat} {following : List Item}
    (h : ∀ c place rest, following = .lexeme ⟨.digit c, place⟩ :: rest → opened < withDigit n c) :
    LongestRun opened n following [] following where
  split := rfl
  le h := absurd rfl h
  longest more behind hmore heq := by
    cases more with
    | nil => exact absurd rfl hmore
    | cons d more => exact Nat.lt_of_lt_of_le (h d.1 d.2 _ heq) (le_withDigits _ more)

theorem LongestRun.digit {opened n : Nat} {c : Char} {place : Location} {rest behind : List Item}
    {ds : List (Char × Location)} (hle : withDigit n c ≤ opened)
    (h : LongestRun opened (withDigit n c) rest ds behind) :
    LongestRun opened n (.lexeme ⟨.digit c, place⟩ :: rest) ((c, place) :: ds) behind where
  split := congrArg _ h.split
  le _ := by
    cases ds with
    | nil => exact hle
    | cons d ds => exact h.le (List.cons_ne_nil _ _)
  longest more behind' hmore heq := h.longest more behind' hmore (List.tail_eq_of_cons_eq heq)

/-! ## Reading them -/

section

variable {flags : Flags}

theorem run_reference (st : State) (start : Location) (n : Nat) (following : List Item)
    (hdecimal : ∀ item ∈ following, Decimal item) :
    ∃ ds behind, LongestRun st.groups.count n following ds behind ∧
      (∀ c place rest, behind = .lexeme ⟨.digit c, place⟩ :: rest →
        st.groups.count < withDigit (withDigits n ds) c) ∧
      run flags { st with mode := .reference n start } following =
        run flags { st with
          mode := .reference (withDigits n ds) start, last := lastPlace st.last ds } behind := by
  induction following generalizing st n with
  | nil => exact ⟨[], [], .stop (by simp), by simp, rfl⟩
  | cons item rest ih =>
      by_cases hitem : ∃ c place, item = .lexeme ⟨.digit c, place⟩ ∧
          withDigit n c ≤ st.groups.count
      · obtain ⟨c, place, rfl, hle⟩ := hitem
        have hdigit : c.isDigit = true := hdecimal _ (.head _)
        obtain ⟨ds, behind, hrun, hstop, heq⟩ :=
          ih { st with last := place } (withDigit n c) fun item hitem =>
            hdecimal item (.tail _ hitem)
        have hmove : stepOn flags { st with mode := .reference n start }
            (.lexeme ⟨.digit c, place⟩ :: rest) =
              .shift 1 { st with mode := .reference (withDigit n c) start, last := place } :=
          if_pos ⟨hdigit, hle⟩
        exact ⟨(c, place) :: ds, behind, hrun.digit hle, hstop, (run_shift hmove).trans heq⟩
      · have hstop : ∀ c place rest', item :: rest = .lexeme ⟨.digit c, place⟩ :: rest' →
            st.groups.count < withDigit n c := by
          intro c place rest' heq
          cases heq
          exact Nat.lt_of_not_le fun hle => hitem ⟨c, place, rfl, hle⟩
        exact ⟨[], item :: rest, .stop hstop, hstop, rfl⟩

theorem stepOn_reference (flags : Flags) (st : State) (start : Location) {n : Nat}
    {behind : List Item} (hfault : ∀ f rest, behind ≠ .fault f :: rest)
    (hstop : ∀ c place rest, behind = .lexeme ⟨.digit c, place⟩ :: rest →
      st.groups.count < withDigit n c) :
    stepOn flags { st with mode := .reference n start } behind =
      referenceEnd { st with mode := .reference n start } n start := by
  simp only [stepOn, step]
  rcases behind with _ | ⟨⟨t, place⟩ | f, rest⟩
  · rfl
  · cases t with
    | digit c =>
        refine if_neg fun h => ?_
        exact Nat.not_lt_of_le h.2 (hstop c place rest rfl)
    | _ => rfl
  · exact absurd rfl (hfault f rest)

/-- The atom `e`, and behind it digits which stand for themselves. -/
def State.literals (st : State) (e : Expr) : List (Char × Location) → State
  | [] => st.withAtom e
  | (c, place) :: rest => ({ st with last := place }.withPiece e).literals (.literal c) rest

theorem run_literals (st : State) (e : Expr) (ds : List (Char × Location)) (behind : List Item) :
    run flags (st.withAtom e) (digits ds ++ behind) = run flags (st.literals e ds) behind := by
  induction ds generalizing st e with
  | nil => rfl
  | cons d ds ih =>
      obtain ⟨c, place⟩ := d
      let items := digits ((c, place) :: ds) ++ behind
      have hbare : stepOn flags (st.withAtom e) items = .shift 0 (st.withPiece e) := rfl
      have hpiece : stepOn flags (st.withPiece e) items =
          .shift 0 { st.withPiece e with mode := .atom } := rfl
      have hliteral : stepOn flags { st.withPiece e with mode := .atom } items =
          .shift 1 (({ st with last := place }.withPiece e).withAtom (.literal c)) := rfl
      rw [run_shift hbare, List.drop_zero, run_shift hpiece, List.drop_zero, run_shift hliteral]
      exact ih _ _

/-! ## Outcomes -/

/-- What becomes of a pattern when the parser, in the state `st`, has the back-reference to `first`
at `place` before it: the items `taken` stand before the reference, and `following` behind it. -/
structure ReadsReference (flags : Flags) (st : State) (taken : List Item) (first : Nat)
    (place : Location) (following : List Item) (outcome : Except Fault Expr)
    (ds : List (Char × Location)) (behind : List Item) : Prop where
  /-- As many digits as possible belong to the reference. -/
  longest : LongestRun ((tokens taken).count .groupOpen) first following ds behind
  /-- A lexical fault behind them is the outcome. -/
  fault : ∀ f rest, behind = .fault f :: rest → outcome = .error (.lexical f)
  /-- A reference to a complete group is an atom, and the digits that are left are literals. -/
  closed : (∀ f rest, behind ≠ .fault f :: rest) →
    ClosedFrom 0 (tokens taken) (withDigits first ds) →
      ∀ more rest, behind = digits more ++ rest → outcome =
        run flags ({ st with last := lastPlace place ds }.literals
          (.backReference (withDigits first ds)) more) rest
  /-- A reference to any other group is a fault. -/
  invalid : (∀ f rest, behind ≠ .fault f :: rest) →
    ¬ ClosedFrom 0 (tokens taken) (withDigits first ds) →
      outcome = .error (.backReference (withDigits first ds) place (lastPlace place ds))

theorem readsReference {its taken following : List Item} {st : State} {first : Nat}
    {place : Location} (hdecimal : ∀ item ∈ its, Decimal item)
    (h : Reaches flags its taken (.lexeme ⟨.backReference first, place⟩ :: following) st)
    (hmode : st.mode = .atom) :
    ∃ ds behind,
      ReadsReference flags st taken first place following (parseItems flags its) ds behind := by
  obtain ⟨ls, rfl, htracks⟩ := h.tracks
  rw [← tokens_items] at htracks
  have hdecimal' : ∀ item ∈ following, Decimal item := by
    intro item hitem
    apply hdecimal item
    rw [h.split]
    exact List.mem_append_right _ (.tail _ hitem)
  obtain ⟨ds, behind, hrun, hstop, heq⟩ := run_reference { st with last := place } place first
    following hdecimal'
  have hmove : stepOn flags st (.lexeme ⟨.backReference first, place⟩ :: following) =
      .shift 1 { st with mode := .reference first place, last := place } := by
    simp only [stepOn, step, hmode]
    rfl
  have hparse := (h.parseItems_eq.trans (run_shift hmove)).trans heq
  have hnumber : st.groups.closed.contains (withDigits first ds) = true ↔
      ClosedFrom 0 (tokens (items ls)) (withDigits first ds) := htracks.closed _
  refine ⟨ds, behind, ?_, ?_, ?_, ?_⟩
  · rw [← htracks.count]
    exact hrun
  · rintro f rest rfl
    rw [hparse]
    exact run_fail rfl
  · intro hfault hclosed more rest hmore
    have hend :=
      stepOn_reference flags { st with last := lastPlace place ds } place hfault hstop
    rw [hparse, run_shift (hend.trans (if_pos (hnumber.2 hclosed))), List.drop_zero, hmore]
    exact run_literals { st with last := lastPlace place ds } _ _ _
  · intro hfault hclosed
    have hend :=
      stepOn_reference flags { st with last := lastPlace place ds } place hfault hstop
    rw [hparse]
    exact run_fail (hend.trans (if_neg (mt hnumber.1 hclosed)))

end

end Parser

open Lexer (Item Decimal)

theorem decimal_patternItems (flags : Flags) (pattern : String) :
    ∀ item ∈ patternItems flags pattern, Decimal item :=
  Lexer.forall_mem_tokens _ fun st p0 p1 p2 => Lexer.step_decimal flags st p0 p1 p2

/-- Wherever a run over a pattern reaches a back-reference, its digits and its outcome are as
`ReadsReference` says, and an expression that is read keeps the groups of the pattern. -/
theorem references_and_groups (flags : Flags) (pattern : String) :
    (∀ (taken following : List Item) (st : Parser.State) (first : Nat) (place : Location),
      Parser.Reaches flags (patternItems flags pattern) taken
          (.lexeme ⟨.backReference first, place⟩ :: following) st →
        st.mode = .atom → ∃ ds behind, Parser.ReadsReference flags st taken first place following
          (parsePattern flags pattern) ds behind) ∧
      ∀ e, parsePattern flags pattern = .ok e →
        Grammar.KeepsGroups flags (Parser.tokens (patternItems flags pattern)) e := by
  constructor
  · intro taken following st first place h hmode
    rw [parsePattern_eq]
    exact Parser.readsReference (decimal_patternItems flags pattern) h hmode
  · intro e h
    rw [parsePattern_eq] at h
    obtain ⟨ls, hls, hsentence⟩ := Parser.sentence_of_run h
    rw [hls, Parser.tokens_items]
    exact Grammar.keepsGroups_of_sentence hsentence

/-- Only the first digit of the reference belongs to it. -/
theorem references_and_groups_doubled :
    let taken := [.lexeme ⟨.groupOpen, ⟨0, 0, 0, 1⟩⟩, .lexeme ⟨.char 'a', ⟨1, 0, 1, 1⟩⟩,
      .lexeme ⟨.groupClose, ⟨2, 0, 2, 1⟩⟩]
    let following := [.lexeme ⟨.digit '0', ⟨5, 0, 5, 1⟩⟩]
    let place := ⟨3, 0, 3, 2⟩
    let e := .branch [.group true (.literal 'a'), .backReference 1, .literal '0']
    (∃ st ds behind, Parser.Reaches {} (patternItems {} "(a)\\10") taken
        (.lexeme ⟨.backReference 1, place⟩ :: following) st ∧ st.mode = .atom ∧
          Parser.ReadsReference {} st taken 1 place following (parsePattern {} "(a)\\10") ds
            behind) ∧
      parsePattern {} "(a)\\10" = .ok e ∧
        Grammar.KeepsGroups {} (Parser.tokens (patternItems {} "(a)\\10")) e := by
  intro taken following place e
  have hitems : patternItems {} "(a)\\10" =
      taken ++ .lexeme ⟨.backReference 1, place⟩ :: following :=
    @patternItems_of_within 20 _ _ _ rfl
  have hparse : parsePattern {} "(a)\\10" = .ok e := by
    refine @parsePattern_of_within 20 _ _ _ _ hitems ?_
    simp only [taken, following, place, List.cons_append, List.nil_append]
    rfl
  obtain ⟨st, hreaches, hmode⟩ : ∃ st, Parser.Reaches {} (patternItems {} "(a)\\10") taken
      (.lexeme ⟨.backReference 1, place⟩ :: following) st ∧ st.mode = .atom := by
    rw [hitems]
    exact ⟨_, @Parser.reaches_of_after _ _ _ _ _ 8 rfl, rfl⟩
  obtain ⟨hreferences, hgroups⟩ := references_and_groups {} "(a)\\10"
  obtain ⟨ds, behind, hreads⟩ := hreferences taken following st 1 place hreaches hmode
  exact ⟨⟨st, ds, behind, hreaches, hmode, hreads⟩, hparse, hgroups e hparse⟩

end SchemaPattern
