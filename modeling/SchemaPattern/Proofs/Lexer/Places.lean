import SchemaPattern.Proofs.Lexer.Run

/-!
# Places of tokens

The lexer keeps account of where it stands: the character that it took last is the one before the
next.  So the tokens of a pattern stand in their order and do not overlap, and a fault, behind which
there is nothing, stands behind them all.
-/

namespace SchemaPattern

/-! ## Characters in a row -/

/-- Characters that stand next to each other, the first of them at index `n`. -/
def InRow (n : Nat) (chars : List Placed) : Prop :=
  ∀ k c, chars[k]? = some c → c.place.index = n + k ∧ c.place.length = 0

theorem inRow_placed {place : Location} (h : place.length = 0) (text : List Char) :
    InRow place.index (placed place text) := by
  induction text generalizing place with
  | nil =>
      intro k c hc
      simp [placed] at hc
  | cons a text ih =>
      rintro (_ | k) c hc
      · obtain rfl := Option.some.inj hc
        exact ⟨rfl, h⟩
      · obtain ⟨hindex, hlength⟩ := ih (place.length_next a) k c hc
        rw [place.index_next] at hindex
        exact ⟨by omega, hlength⟩

theorem InRow.drop {n : Nat} {chars : List Placed} (h : InRow n chars) (count : Nat) :
    InRow (n + count) (chars.drop count) := by
  intro k c hc
  rw [List.getElem?_drop] at hc
  obtain ⟨hindex, hlength⟩ := h _ c hc
  exact ⟨by omega, hlength⟩

namespace Lexer

/-! ## Where the lexer stands -/

def Scan.start? : Scan → Option Location
  | number start _ | category start _ _ => some start
  | ready | comment | finished => none

/-- In this state so many characters have been taken. -/
structure State.Taken (st : State) (n : Nat) : Prop where
  none : st.last = none → n = 0
  last : ∀ l ∈ st.last, l.length = 0 ∧ l.index + 1 = n
  start : ∀ l ∈ st.scan.start?, l.index < n

/-- Where the next token begins, if it begins at once. -/
def State.start (st : State) (n : Nat) : Nat := (st.scan.start?.map Location.index).getD n

theorem taken_start : ({} : State).Taken 0 where
  none _ := rfl
  last _ h := nomatch h
  start _ h := nomatch h

section

variable {st next : State} {n : Nat}

theorem State.Taken.endPlace (h : st.Taken n) : st.endPlace.index = n := by
  unfold State.endPlace
  cases hlast : st.last with
  | none => exact (h.none hlast).symm
  | some l =>
      obtain ⟨hlength, hindex⟩ := h.last l hlast
      simp only [Location.after, Location.position, hlength]
      omega

theorem State.Taken.sinceStart (h : st.Taken n) {start : Location} (hstart : start.index < n) :
    (st.sinceStart start).index = start.index ∧
      start.index + (st.sinceStart start).length = n := by
  refine ⟨rfl, ?_⟩
  cases hlast : st.last with
  | none =>
      have := h.none hlast
      omega
  | some l =>
      obtain ⟨-, hindex⟩ := h.last l hlast
      simp only [State.sinceStart, hlast, Option.getD_some, Location.through, Location.withLength]
      omega

/-! ## Steps -/

/-- What a move says of places: `n` characters have been taken and `available` are still there, and
no token has been yielded that ends behind `start`. -/
def Move.Places (n available start : Nat) : Move → Prop
  | .stop => True
  | .shift count next =>
      count ≤ available ∧ next.Taken (n + count) ∧ start ≤ next.start (n + count)
  | .emit count (.lexeme l) next =>
      count ≤ available ∧ next.Taken (n + count) ∧ next.scan = .ready ∧ start ≤ l.range.index ∧
        l.range.index + l.range.length = n + count
  | .emit _ (.fault f) next => next.scan = .finished ∧ start ≤ f.place.index

theorem fail_places {available start : Nat} (cause : LexicalCause) {place : Location}
    (h : start ≤ place.index) : (fail st cause place).Places n available start :=
  ⟨rfl, h⟩

theorem token_places {count available start : Nat} {first last : Location} {t : Token}
    {context : Context} (hcount : count ≤ available) (hstart : start ≤ first.index)
    (hfirst : first.index ≤ last.index) (hlast : last.index + 1 = n + count)
    (hlength : last.length = 0) :
    (token count first last t context).Places n available start := by
  refine ⟨hcount, ⟨nofun, fun l hl => ?_, nofun⟩, rfl, hstart, ?_⟩
  · obtain rfl := Option.some.inj hl
    exact ⟨hlength, hlast⟩
  · simp only [Location.through, Location.withLength]
    omega

theorem shift_places {count available start : Nat} {last : Location} (hcount : count ≤ available)
    (htaken : next.last = some last) (hlast : last.index + 1 = n + count)
    (hlength : last.length = 0) (hscan : ∀ l ∈ next.scan.start?, l.index < n + count)
    (hstart : start ≤ next.start (n + count)) :
    (Move.shift count next).Places n available start := by
  refine ⟨hcount, ⟨fun hnone => ?_, fun l hl => ?_, hscan⟩, hstart⟩
  · rw [htaken] at hnone
    cases hnone
  · rw [htaken] at hl
    obtain rfl := Option.some.inj hl
    exact ⟨hlength, hlast⟩

variable {c : Placed} {chars : List Placed}

theorem escape_places (hchars : InRow n (c :: chars)) :
    (escape st c.place chars[0]? chars[1]?).Places n (chars.length + 1) n := by
  obtain ⟨hindex, hlength⟩ := hchars 0 c rfl
  rcases chars with _ | ⟨e, rest⟩
  · exact fail_places _ (Nat.le_of_eq hindex.symm)
  · obtain ⟨hnext, hnone⟩ := hchars 1 e rfl
    have hwhole (cause : LexicalCause) : (fail st cause (c.place.through e.place)).Places n
        ((e :: rest).length + 1) n := fail_places _ (Nat.le_of_eq hindex.symm)
    have hfound (t : Token) : (token 2 c.place e.place t st.inside).Places n
        ((e :: rest).length + 1) n :=
      token_places (by simp) (by omega) (by omega) (by omega) hnone
    simp only [List.getElem?_cons_zero, List.getElem?_cons_succ, escape]
    split_ifs
    iterate 5 exact hfound _
    · split
      · next place hbrace =>
        obtain ⟨d, rest, rfl⟩ : ∃ d more, rest = d :: more := by
          cases rest <;> simp_all
        obtain rfl := Option.some.inj hbrace
        obtain ⟨hthird, hthirdLength⟩ : place.index = n + 2 ∧ place.length = 0 := hchars 2 _ rfl
        refine shift_places (by simp) rfl (by omega) hthirdLength ?_ (Nat.le_of_eq hindex.symm)
        intro l hl
        obtain rfl := Option.some.inj hl
        omega
      · exact hwhole _
    · split
      · exact hwhole _
      · exact hwhole _
    · split
      · exact hwhole _
      · exact hfound _
    · exact hwhole _

theorem outside_places (flags : Flags) (hchars : InRow n (c :: chars)) :
    (outside flags st c chars[0]? chars[1]?).Places n (chars.length + 1) n := by
  obtain ⟨hindex, hlength⟩ := hchars 0 c rfl
  have hfail (cause : LexicalCause) (length : Nat) :
      (fail st cause (c.place.withLength length)).Places n (chars.length + 1) n :=
    fail_places _ (Nat.le_of_eq hindex.symm)
  have hfound (t : Token) (context : Context) :
      (token 1 c.place c.place t context).Places n (chars.length + 1) n :=
    token_places (by simp) (by omega) (by omega) (by omega) hlength
  unfold outside
  split
  case h_5 =>
    split
    · next last _ hlast =>
      obtain ⟨hthird, hthirdLength⟩ : last.index = n + 2 ∧ last.length = 0 := hchars 2 _ hlast
      obtain ⟨hlt, -⟩ := List.getElem?_eq_some_iff.1 hlast
      split
      · exact token_places (by omega) (by omega) (by omega) (by omega) hthirdLength
      · exact hfail _ _
    · split
      · exact hfail _ _
      · exact hfail _ _
    · exact hfound _ _
  case h_14 => exact escape_places hchars
  case h_15 =>
    split
    · exact hfound _ _
    · exact hfound _ _
  all_goals first | exact hfail _ _ | exact hfound _ _

theorem inClass_places (enclosing : Nat) (spot : Spot) (hchars : InRow n (c :: chars)) :
    (inClass st enclosing spot c chars[0]? chars[1]?).Places n (chars.length + 1) n := by
  obtain ⟨hindex, hlength⟩ := hchars 0 c rfl
  have hfound (t : Token) (context : Context) :
      (token 1 c.place c.place t context).Places n (chars.length + 1) n :=
    token_places (by simp) (by omega) (by omega) (by omega) hlength
  unfold inClass
  split
  · exact hfound _ _
  · split
    · exact hfound _ _
    · exact fail_places _ (Nat.le_of_eq hindex.symm)
  · exact hfound _ _
  · split
    · exact hfound _ _
    · exact hfound _ _
  · exact escape_places hchars
  · exact hfound _ _

theorem inQuantifier_places (hchars : InRow n (c :: chars)) :
    (inQuantifier st c).Places n (chars.length + 1) n := by
  obtain ⟨hindex, hlength⟩ := hchars 0 c rfl
  have hfound (t : Token) (context : Context) :
      (token 1 c.place c.place t context).Places n (chars.length + 1) n :=
    token_places (by simp) (by omega) (by omega) (by omega) hlength
  unfold inQuantifier
  split_ifs
  · refine shift_places (by simp) rfl (by omega) hlength ?_ (Nat.le_of_eq hindex.symm)
    intro l hl
    obtain rfl := Option.some.inj hl
    omega
  · exact hfound _ _
  · exact hfound _ _
  · exact fail_places _ (Nat.le_of_eq hindex.symm)

theorem between_places (flags : Flags) (hscan : st.scan = .ready) (hchars : InRow n (c :: chars)) :
    (between flags st c chars[0]? chars[1]?).Places n (chars.length + 1) n := by
  obtain ⟨hindex, hlength⟩ := hchars 0 c rfl
  unfold between
  split
  · exact inClass_places _ _ hchars
  · split_ifs
    · exact shift_places (by simp) rfl (by omega) hlength (by simp [hscan, Scan.start?])
        (by simp [State.start, hscan, Scan.start?])
    · exact shift_places (by simp) rfl (by omega) hlength (by simp [Scan.start?])
        (by simp [State.start, Scan.start?])
    · exact inQuantifier_places hchars
    · exact outside_places flags hchars

theorem closeNumber_places (h : st.Taken n) (available : Nat) {start : Location}
    (hstart : start.index < n) (digits : List Char) :
    (closeNumber st start digits).Places n available start.index := by
  unfold closeNumber
  split
  · exact ⟨Nat.zero_le _, ⟨h.none, h.last, nofun⟩, rfl, Nat.le_refl _, (h.sinceStart hstart).2⟩
  · exact fail_places _ (Nat.le_refl _)

theorem categoryName_places {start : Location} (negated : Bool) (name : List Char)
    (hstart : start.index < n) (hchars : InRow n chars) :
    (categoryName st start negated name chars[0]?).Places n chars.length start.index := by
  have hfail (cause : LexicalCause) (place : Location) (hplace : place.index = start.index) :
      (fail st cause place).Places n chars.length start.index :=
    fail_places _ (Nat.le_of_eq hplace.symm)
  rcases chars with _ | ⟨c, rest⟩
  · exact hfail _ _ rfl
  · obtain ⟨hindex, hlength⟩ := hchars 0 c rfl
    simp only [List.getElem?_cons_zero, categoryName]
    split_ifs
    · exact hfail _ _ rfl
    · exact token_places (by simp) (Nat.le_refl _) (by omega) (by omega) hlength
    · refine shift_places (by simp) rfl (by omega) hlength ?_ (Nat.le_refl _)
      intro l hl
      obtain rfl := Option.some.inj hl
      omega
    · exact hfail _ _ rfl

theorem stepOn_places (flags : Flags) (h : st.Taken n) (hchars : InRow n chars) :
    (stepOn flags st chars).Places n chars.length (st.start n) := by
  unfold stepOn step
  split
  · trivial
  · next hscan _ =>
    simp only [State.start, hscan, Scan.start?, Option.map_none, Option.getD_none]
    unfold atEnd
    split
    · trivial
    · exact fail_places _ (Nat.le_of_eq h.endPlace.symm)
    · exact fail_places _ (Nat.le_of_eq h.endPlace.symm)
  · next c hscan hfirst =>
    obtain ⟨rest, rfl⟩ : ∃ rest, chars = c :: rest := by
      cases chars <;> simp_all
    simp only [State.start, hscan, Scan.start?, Option.map_none, Option.getD_none]
    exact between_places flags hscan hchars
  · next hscan hfirst =>
    refine ⟨Nat.zero_le _, ⟨h.none, h.last, nofun⟩, ?_⟩
    simp [State.start, hscan, Scan.start?]
  · next c hscan hfirst =>
    obtain ⟨hlt, -⟩ := List.getElem?_eq_some_iff.1 hfirst
    obtain ⟨hindex, hlength⟩ := hchars 0 c hfirst
    have hnone : (if c.char = '\n' then Scan.ready else Scan.comment).start? = none := by
      split <;> rfl
    refine shift_places hlt rfl (by omega) hlength (by simp [hnone]) ?_
    simp only [State.start, hscan, hnone]
    exact Nat.le_succ n
  · next start digits hscan =>
    have hstart : start.index < n := h.start start (by simp [hscan, Scan.start?])
    have hbegin : st.start n = start.index := by simp [State.start, hscan, Scan.start?]
    rw [hbegin]
    split
    · next c hfirst =>
      obtain ⟨hlt, -⟩ := List.getElem?_eq_some_iff.1 hfirst
      obtain ⟨hindex, hlength⟩ := hchars 0 c hfirst
      split
      · refine shift_places hlt rfl (by omega) hlength ?_ (Nat.le_refl _)
        intro l hl
        obtain rfl := Option.some.inj hl
        omega
      · exact closeNumber_places h _ hstart _
    · exact closeNumber_places h _ hstart _
  · next start negated name hscan =>
    have hstart : start.index < n := h.start start (by simp [hscan, Scan.start?])
    have hbegin : st.start n = start.index := by simp [State.start, hscan, Scan.start?]
    rw [hbegin]
    exact categoryName_places negated name hstart hchars

end

/-! ## Runs -/

/-- Lexemes that stand in their order behind `n` and do not overlap, and then perhaps a fault. -/
inductive InOrder : Nat → List Item → Prop
  | nil {n : Nat} : InOrder n []
  | lexeme {n : Nat} {l : Lexeme} {rest : List Item} (h : n ≤ l.range.index)
      (hrest : InOrder (l.range.index + l.range.length) rest) : InOrder n (.lexeme l :: rest)
  | fault {n : Nat} {f : LexicalFault} (h : n ≤ f.place.index) : InOrder n [.fault f]

theorem InOrder.mono {m n : Nat} {its : List Item} (h : InOrder n its) (hle : m ≤ n) :
    InOrder m its := by
  cases h with
  | nil => exact .nil
  | lexeme h hrest => exact .lexeme (Nat.le_trans hle h) hrest
  | fault h => exact .fault (Nat.le_trans hle h)

theorem itemsFrom_finished {flags : Flags} {st : State} (h : st.scan = .finished)
    (chars : List Placed) : itemsFrom flags st chars = [] :=
  itemsFrom_stop (by simp [stepOn, step, h])

theorem inOrder_itemsFrom {flags : Flags} {st : State} {n : Nat} {chars : List Placed}
    (h : st.Taken n) (hchars : InRow n chars) :
    InOrder (st.start n) (itemsFrom flags st chars) := by
  induction st, chars using itemsFrom_induction flags generalizing n with
  | stop st chars hmove =>
      rw [itemsFrom_stop hmove]
      exact .nil
  | emit st chars count item next hmove ih =>
      have hplaces := stepOn_places flags h hchars
      rw [itemsFrom_emit hmove]
      rw [hmove] at hplaces
      cases item with
      | lexeme l =>
          obtain ⟨-, htaken, hready, hbegin, hend⟩ := hplaces
          have hrest := ih htaken (hchars.drop count)
          rw [State.start, hready] at hrest
          exact .lexeme hbegin (hend ▸ hrest)
      | fault f =>
          obtain ⟨hfinished, hbegin⟩ := hplaces
          rw [itemsFrom_finished hfinished]
          exact .fault hbegin
  | shift st chars count next hmove ih =>
      have hplaces := stepOn_places flags h hchars
      rw [itemsFrom_shift hmove]
      rw [hmove] at hplaces
      obtain ⟨-, htaken, hbegin⟩ := hplaces
      exact (ih htaken (hchars.drop count)).mono hbegin

end Lexer

theorem inOrder_patternItems (flags : Flags) (pattern : String) :
    Lexer.InOrder 0 (patternItems flags pattern) := by
  rw [patternItems_eq]
  exact Lexer.inOrder_itemsFrom Lexer.taken_start (inRow_placed rfl _)

end SchemaPattern
