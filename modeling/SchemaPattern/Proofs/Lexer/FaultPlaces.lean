import SchemaPattern.Proofs.Lexer.Places
import SchemaPattern.Proofs.Location

/-!
# Places of lexical faults

The lexer knows the places of characters that it has seen, and no others.  So a fault spans
characters of the pattern, unless the fault is that the pattern ends: then it stands behind the last
character.
-/

namespace SchemaPattern

/-- A class or the bounds of a quantifier go on where the pattern ends. -/
def LexicalCause.AtEnd : LexicalCause → Prop
  | unclosedClass | unclosedQuantifier => True
  | _ => False

namespace Lexer

/-! ## Known places -/

/-- The places in a state are known. -/
structure State.Knows (known : Location → Prop) (st : State) : Prop where
  last : ∀ l ∈ st.last, known l
  start : ∀ l ∈ st.scan.start?, known l

/-- A fault that is found in a state before a character, or before the end. -/
inductive Finds (known : Location → Prop) (st : State) : Option Placed → LexicalFault → Prop
  | inside {p0 : Option Placed} {cause : LexicalCause} {first last : Location}
      (hcause : ¬ cause.AtEnd) (hfirst : known first) (hlast : known last) :
      Finds known st p0 ⟨cause, first.through last⟩
  | atEnd {cause : LexicalCause} (hcause : cause.AtEnd) : Finds known st none ⟨cause, st.endPlace⟩

/-- A move leads to a state with known places, or finds a fault. -/
def Move.Knows (known : Location → Prop) (st : State) (p0 : Option Placed) : Move → Prop
  | .stop => True
  | .shift _ next | .emit _ (.lexeme _) next => next.Knows known
  | .emit _ (.fault f) _ => Finds known st p0 f

section

variable {known : Location → Prop} {st next : State} {p0 : Option Placed} {n : Nat}
  {c : Placed} {chars : List Placed}

theorem State.Knows.sinceStart (h : st.Knows known) {start : Location} (hstart : known start) :
    ∃ last, known last ∧ st.sinceStart start = start.through last := by
  cases hlast : st.last with
  | none => exact ⟨start, hstart, by simp [State.sinceStart, hlast]⟩
  | some l => exact ⟨l, h.last l hlast, by simp [State.sinceStart, hlast]⟩

/-! ## Steps -/

theorem fail_knows {cause : LexicalCause} {first last : Location} (hfirst : known first)
    (hlast : known last) (hcause : ¬ cause.AtEnd) :
    (fail st cause (first.through last)).Knows known st p0 :=
  .inside hcause hfirst hlast

theorem fail_one_knows {cause : LexicalCause} {first : Location} (hfirst : known first)
    (hcause : ¬ cause.AtEnd) : (fail st cause (first.withLength 1)).Knows known st p0 := by
  rw [← Location.through_self]
  exact fail_knows hfirst hfirst hcause

theorem token_knows {count : Nat} {first last : Location} {t : Token} {context : Context}
    (hlast : known last) : (token count first last t context).Knows known st p0 := by
  refine ⟨fun l hl => ?_, nofun⟩
  obtain rfl := Option.some.inj hl
  exact hlast

theorem shift_knows {count : Nat} {last : Location} (htaken : next.last = some last)
    (hlast : known last) (hstart : ∀ l ∈ next.scan.start?, known l) :
    (Move.shift count next).Knows known st p0 := by
  refine ⟨fun l hl => ?_, hstart⟩
  rw [htaken] at hl
  obtain rfl := Option.some.inj hl
  exact hlast

theorem escape_knows (hknown : ∀ d ∈ c :: chars, known d.place) :
    (escape st c.place chars[0]? chars[1]?).Knows known st p0 := by
  have hc := hknown c (.head _)
  rcases chars with _ | ⟨e, rest⟩
  · exact fail_one_knows hc id
  · have he := hknown e (.tail _ (.head _))
    have hwhole {cause : LexicalCause} (hcause : ¬ cause.AtEnd) :
        (fail st cause (c.place.through e.place)).Knows known st p0 := fail_knows hc he hcause
    have hfound (t : Token) : (token 2 c.place e.place t st.inside).Knows known st p0 :=
      token_knows he
    simp only [List.getElem?_cons_zero, List.getElem?_cons_succ, escape]
    split_ifs
    iterate 5 exact hfound _
    · split
      · next place hbrace =>
        have hplace : known place :=
          hknown _ (.tail _ (.tail _ (List.mem_of_getElem? hbrace)))
        refine shift_knows rfl hplace fun l hl => ?_
        obtain rfl := Option.some.inj hl
        exact hc
      · exact hwhole id
    · split
      · exact hwhole id
      · exact hwhole id
    · split
      · exact hwhole id
      · exact hfound _
    · exact hwhole id

theorem outside_knows (flags : Flags) (hchars : InRow n (c :: chars))
    (hknown : ∀ d ∈ c :: chars, known d.place) :
    (outside flags st c chars[0]? chars[1]?).Knows known st p0 := by
  have hc := hknown c (.head _)
  have hfound (t : Token) (context : Context) :
      (token 1 c.place c.place t context).Knows known st p0 := token_knows hc
  -- A group is refused together with the character behind its parenthesis.
  have htwo {cause : LexicalCause} {d : Placed} (hd : chars[0]? = some d)
      (hcause : ¬ cause.AtEnd) : (fail st cause (c.place.withLength 2)).Knows known st p0 := by
    obtain ⟨hindex, -⟩ := hchars 0 c rfl
    obtain ⟨hnext, -⟩ := hchars 1 d hd
    have hthrough : c.place.withLength 2 = c.place.through d.place := by
      rw [Location.through, hnext, hindex]
      exact congrArg _ (by omega)
    rw [hthrough]
    exact fail_knows hc (hknown d (.tail _ (List.mem_of_getElem? hd))) hcause
  unfold outside
  split
  case h_2 => exact fail_one_knows hc id
  case h_4 => exact fail_one_knows hc id
  case h_5 =>
    split
    · next hmark hlast =>
      split
      · exact token_knows (hknown _ (.tail _ (List.mem_of_getElem? hlast)))
      · exact htwo hmark id
    · next hmark _ =>
      split
      · exact htwo hmark id
      · exact htwo hmark id
    · exact hfound _ _
  case h_14 => exact escape_knows hknown
  case h_15 =>
    split
    · exact hfound _ _
    · exact hfound _ _
  all_goals exact hfound _ _

theorem inClass_knows (enclosing : Nat) (spot : Spot) (hknown : ∀ d ∈ c :: chars, known d.place) :
    (inClass st enclosing spot c chars[0]? chars[1]?).Knows known st p0 := by
  have hc := hknown c (.head _)
  have hfound (t : Token) (context : Context) :
      (token 1 c.place c.place t context).Knows known st p0 := token_knows hc
  unfold inClass
  split
  · exact hfound _ _
  · split
    · exact hfound _ _
    · exact fail_one_knows hc id
  · exact hfound _ _
  · split
    · exact hfound _ _
    · exact hfound _ _
  · exact escape_knows hknown
  · exact hfound _ _

theorem inQuantifier_knows (hc : known c.place) : (inQuantifier st c).Knows known st p0 := by
  unfold inQuantifier
  split_ifs
  · refine shift_knows rfl hc fun l hl => ?_
    obtain rfl := Option.some.inj hl
    exact hc
  · exact token_knows hc
  · exact token_knows hc
  · exact fail_one_knows hc id

theorem between_knows (flags : Flags) (h : st.Knows known) (hchars : InRow n (c :: chars))
    (hknown : ∀ d ∈ c :: chars, known d.place) :
    (between flags st c chars[0]? chars[1]?).Knows known st p0 := by
  have hc := hknown c (.head _)
  unfold between
  split
  · exact inClass_knows _ _ hknown
  · split_ifs
    · exact shift_knows rfl hc h.start
    · exact shift_knows rfl hc nofun
    · exact inQuantifier_knows hc
    · exact outside_knows flags hchars hknown

theorem closeNumber_knows (h : st.Knows known) {start : Location} (hstart : known start)
    (digits : List Char) : (closeNumber st start digits).Knows known st p0 := by
  unfold closeNumber
  split
  · exact ⟨h.last, nofun⟩
  · obtain ⟨last, hlast, hsince⟩ := h.sinceStart hstart
    rw [hsince]
    exact fail_knows hstart hlast id

theorem categoryName_knows (h : st.Knows known) {start : Location} (hstart : known start)
    (negated : Bool) (name : List Char) (hknown : ∀ d ∈ p0, known d.place) :
    (categoryName st start negated name p0).Knows known st p0 := by
  unfold categoryName
  split
  · obtain ⟨last, hlast, hsince⟩ := h.sinceStart hstart
    rw [hsince]
    exact fail_knows hstart hlast id
  · next c =>
    have hc := hknown c rfl
    split_ifs
    · exact fail_knows hstart hc id
    · exact token_knows hc
    · refine shift_knows rfl hc fun l hl => ?_
      obtain rfl := Option.some.inj hl
      exact hstart
    · exact fail_knows hstart hc id

theorem stepOn_knows (flags : Flags) (h : st.Knows known) (hchars : InRow n chars)
    (hknown : ∀ d ∈ chars, known d.place) :
    (stepOn flags st chars).Knows known st chars[0]? := by
  have hfirst : ∀ d ∈ chars[0]?, known d.place := fun d hd => hknown d (List.mem_of_getElem? hd)
  unfold stepOn step
  split
  · trivial
  · next hnone =>
    rw [hnone]
    unfold atEnd
    split
    · trivial
    · exact .atEnd trivial
    · exact .atEnd trivial
  · next c _ hc =>
    obtain ⟨rest, rfl⟩ : ∃ rest, chars = c :: rest := by
      cases chars <;> simp_all
    exact between_knows flags h hchars hknown
  · exact ⟨h.last, nofun⟩
  · next c _ hc =>
    have hnone : (if c.char = '\n' then Scan.ready else Scan.comment).start? = none := by
      split <;> rfl
    exact shift_knows rfl (hfirst c hc) (by simp [hnone])
  · next start digits hscan =>
    have hstart : known start := h.start start (by simp [hscan, Scan.start?])
    split
    · next c hc =>
      split
      · refine shift_knows rfl (hfirst c hc) fun l hl => ?_
        obtain rfl := Option.some.inj hl
        exact hstart
      · exact closeNumber_knows h hstart _
    · exact closeNumber_knows h hstart _
  · next start negated name hscan =>
    have hstart : known start := h.start start (by simp [hscan, Scan.start?])
    exact categoryName_knows h hstart negated name hfirst

end

/-! ## Runs -/

/-- Where a character of the pattern stands. -/
def StandsIn (pattern : List Char) (l : Location) : Prop :=
  ∃ before c behind, pattern = before ++ c :: behind ∧ l = Location.origin.past before

theorem standsIn_placed (before text : List Char) :
    ∀ d ∈ placed (Location.origin.past before) text, StandsIn (before ++ text) d.place := by
  induction text generalizing before with
  | nil => simp [placed]
  | cons c text ih =>
      intro d hd
      rcases List.mem_cons.1 hd with rfl | hd
      · exact ⟨before, c, text, rfl, rfl⟩
      · rw [← Location.past_concat] at hd
        simpa using ih (before ++ [c]) d hd

theorem StandsIn.through {pattern : List Char} {first last : Location}
    (hfirst : StandsIn pattern first) (hlast : StandsIn pattern last) :
    (first.through last).PieceOf pattern := by
  have hone {l : Location} (h : StandsIn pattern l) : (l.withLength 1).PieceOf pattern := by
    obtain ⟨before, c, behind, rfl, rfl⟩ := h
    exact @Location.PieceOf.intro _ before [c] behind rfl (by simp)
  have hthrough := (hone hfirst).through (hone hlast)
  exact hthrough

/-- A fault spans characters of the pattern, or stands behind the last of them. -/
inductive FaultIn (pattern : List Char) : LexicalFault → Prop
  | inside {cause : LexicalCause} {place : Location} (hcause : ¬ cause.AtEnd)
      (hplace : place.PieceOf pattern) : FaultIn pattern ⟨cause, place⟩
  | atEnd {cause : LexicalCause} {before : List Char} {c : Char} (hcause : cause.AtEnd)
      (h : pattern = before ++ [c]) :
      FaultIn pattern ⟨cause, (Location.ofPiece before [c]).after⟩

section

variable {flags : Flags} {st : State} {pattern : List Char} {n : Nat} {chars : List Placed}

theorem after_withLength_one {l : Location} (h : l.length = 0) :
    (l.withLength 1).after = l.after := by
  simp [Location.after, Location.withLength, h]

/-- Behind its last character a pattern is at its end. -/
theorem State.Taken.endPlace_eq (h : st.Taken pattern.length) (hknows : st.Knows (StandsIn pattern))
    (hne : pattern ≠ []) :
    ∃ before c, pattern = before ++ [c] ∧ st.endPlace = (Location.ofPiece before [c]).after := by
  cases hlast : st.last with
  | none => exact absurd (List.length_eq_zero_iff.1 (h.none hlast)) hne
  | some l =>
      obtain ⟨hlength, hindex⟩ := h.last l hlast
      obtain ⟨before, c, behind, rfl, rfl⟩ := hknows.last l hlast
      obtain rfl : behind = [] := by simpa [Location.past_origin] using hindex
      refine ⟨before, c, rfl, ?_⟩
      rw [State.endPlace, hlast]
      exact (after_withLength_one hlength).symm

theorem faultIn_itemsFrom (hne : pattern ≠ []) (h : st.Taken n) (hchars : InRow n chars)
    (hend : n + chars.length = pattern.length) (hknows : st.Knows (StandsIn pattern))
    (hknown : ∀ d ∈ chars, StandsIn pattern d.place) {f : LexicalFault}
    (hf : .fault f ∈ itemsFrom flags st chars) : FaultIn pattern f := by
  have hdrop {chars : List Placed} (hknown : ∀ d ∈ chars, StandsIn pattern d.place) (count : Nat) :
      ∀ d ∈ chars.drop count, StandsIn pattern d.place :=
    fun d hd => hknown d (List.mem_of_mem_drop hd)
  induction st, chars using itemsFrom_induction flags generalizing n with
  | stop st chars hmove =>
      rw [itemsFrom_stop hmove] at hf
      cases hf
  | emit st chars count item next hmove ih =>
      have hplaces := stepOn_places flags h hchars
      have hmoveKnows := stepOn_knows flags hknows hchars hknown
      rw [itemsFrom_emit hmove] at hf
      rw [hmove] at hplaces hmoveKnows
      cases item with
      | lexeme l =>
          obtain ⟨hcount, htaken, -⟩ := hplaces
          have hlength : n + count + (chars.drop count).length = pattern.length := by
            rw [List.length_drop]
            omega
          exact ih htaken (hchars.drop count) hlength hmoveKnows (hdrop hknown count)
            (by simpa using hf)
      | fault g =>
          -- Behind a fault there is nothing, so it is the one that is asked for.
          obtain ⟨hfinished, -⟩ := hplaces
          rw [itemsFrom_finished hfinished] at hf
          obtain rfl : f = g := by simpa using hf
          generalize hfirst : chars[0]? = p0 at hmoveKnows
          cases hmoveKnows with
          | inside hcause hbegin hlast => exact .inside hcause (hbegin.through hlast)
          | atEnd hcause =>
              obtain rfl : chars = [] := by simpa using hfirst
              obtain rfl : n = pattern.length := hend
              obtain ⟨before, c, hpattern, hplace⟩ := h.endPlace_eq hknows hne
              rw [hplace]
              exact .atEnd hcause hpattern
  | shift st chars count next hmove ih =>
      have hplaces := stepOn_places flags h hchars
      have hmoveKnows := stepOn_knows flags hknows hchars hknown
      rw [itemsFrom_shift hmove] at hf
      rw [hmove] at hplaces hmoveKnows
      obtain ⟨hcount, htaken, -⟩ := hplaces
      have hlength : n + count + (chars.drop count).length = pattern.length := by
        rw [List.length_drop]
        omega
      exact ih htaken (hchars.drop count) hlength hmoveKnows (hdrop hknown count) hf

end

end Lexer

theorem faultIn_patternItems {flags : Flags} {pattern : String} {f : LexicalFault}
    (h : .fault f ∈ patternItems flags pattern) : Lexer.FaultIn pattern.toList f := by
  rw [patternItems_eq] at h
  by_cases hne : pattern.toList = []
  · rw [hne, Lexer.itemsFrom_stop rfl] at h
    cases h
  · exact Lexer.faultIn_itemsFrom hne Lexer.taken_start (inRow_placed rfl _)
      ((Nat.zero_add _).trans (length_placed _ _)) ⟨nofun, nofun⟩ (Lexer.standsIn_placed [] _) h

end SchemaPattern
