import SchemaPattern.Proofs.Concatenation
import SchemaPattern.Proofs.WellFormed

/-!
# Bounds of a quantifier

The bounds behind an atom are read at their full length, leading zeros and all, and one that does
not fit is reported where it stands, the lower one first.  The host reads from the compiled pattern
the bounds that the expression has, whichever way they are written for it.
-/

namespace SchemaPattern

/-- The digits at a place are those of a bound that is too large. -/
def tooLarge (ds : List Char) (place : Location) : LexicalFault :=
  ⟨.boundTooLarge (String.ofList ds), place.withLength ds.length⟩

/-- The mark of a lazy quantifier, or nothing. -/
def lazyText (isLazy : Bool) : List Char := if isLazy then ['?'] else []

/-! ## What the lexer yields -/

namespace Lexer

def lazyItems (place : Location) (isLazy : Bool) : List Item :=
  if isLazy then [.lexeme ⟨.optional, place.withLength 1⟩] else []

/-- The items of a closing brace, and of the mark behind it. -/
def closingItems (place : Location) (isLazy : Bool) : List Item :=
  .lexeme ⟨.quantifierClose, place.withLength 1⟩ :: lazyItems (place.past ['}']) isLazy

/-- The items of a bound, with others behind it. -/
def boundItems (place : Location) (ds : List Char) (behind : List Item) : List Item :=
  if 2 ^ 32 ≤ Numeral.decimalValue ds then [.fault (tooLarge ds place)]
  else .lexeme ⟨.number (Numeral.decimalValue ds), place.withLength ds.length⟩ :: behind

section

variable {flags : Flags} {place : Location} {rest : List Char}

/-- Where nothing is skipped, the token that a text spells stands at its beginning. -/
theorem itemsFrom_of_spells (hstrip : flags.stripWhitespace = false) {context after : Context}
    {text : List Char} {t : Token}
    (h : Spells flags.extended context text rest.head? t after) (last : Option Location) :
    ∃ last', itemsFrom flags { context, last } (placed place (text ++ rest)) =
      .lexeme ⟨t, place.withLength text.length⟩ ::
        itemsFrom flags { context := after, last := some last' } (placed (place.past text) rest) :=
  takesToken_of_spells h rfl rfl rfl (by simp [Skipped, hstrip])

theorem itemsFrom_lazyText (hstrip : flags.stripWhitespace = false) (isLazy : Bool)
    (last : Option Location) :
    itemsFrom flags { last } (placed place (lazyText isLazy)) = lazyItems place isLazy := by
  cases isLazy with
  | false => exact itemsFrom_stop rfl
  | true =>
      have hspells : Spells flags.extended .outside ['?'] ([] : List Char).head? .optional
          .outside := .operator (by decide)
      obtain ⟨mid, hmark⟩ := @itemsFrom_of_spells flags place [] hstrip _ _ _ _ hspells last
      have hend : itemsFrom flags { last := some mid } (placed (place.past ['?']) []) = [] :=
        itemsFrom_stop rfl
      rw [hend] at hmark
      exact hmark

theorem itemsFrom_closing (hstrip : flags.stripWhitespace = false) (isLazy : Bool)
    (last : Option Location) :
    itemsFrom flags { context := .quantifier, last } (placed place ('}' :: lazyText isLazy)) =
      closingItems place isLazy := by
  obtain ⟨mid, hclose⟩ :=
    @itemsFrom_of_spells flags place (lazyText isLazy) hstrip _ _ _ _ .quantifierClose last
  rw [itemsFrom_lazyText hstrip] at hclose
  exact hclose

theorem itemsFrom_comma (hstrip : flags.stripWhitespace = false) {behind : List Item}
    (hbehind : ∀ last, itemsFrom flags { context := .quantifier, last }
      (placed (place.past [',']) rest) = behind) (last : Option Location) :
    itemsFrom flags { context := .quantifier, last } (placed place (',' :: rest)) =
      .lexeme ⟨.comma, place.withLength 1⟩ :: behind := by
  obtain ⟨mid, hcomma⟩ := @itemsFrom_of_spells flags place rest hstrip _ _ _ _ .comma last
  rw [hbehind] at hcomma
  exact hcomma

theorem itemsFrom_boundItems (hstrip : flags.stripWhitespace = false) {ds : List Char}
    (hds : ds ≠ [] ∧ ∀ d ∈ ds, d.isDigit = true) (hrest : ∀ c ∈ rest.head?, c.isDigit = false)
    {behind : List Item} (hbehind : ∀ last, itemsFrom flags { context := .quantifier, last }
      (placed (place.past ds) rest) = behind) (last : Option Location) :
    itemsFrom flags { context := .quantifier, last } (placed place (ds ++ rest)) =
      boundItems place ds behind := by
  have hlimit : boundLimit = 2 ^ 32 := by decide
  unfold boundItems
  split_ifs with hlarge
  · apply itemsFrom_tooLarge rfl rfl hds.1 hds.2 hrest
    omega
  · have hspells := @Spells.number flags.extended ds _ hds.1 hds.2 hrest (by omega)
    obtain ⟨mid, hnumber⟩ := itemsFrom_of_spells hstrip hspells last
    rw [hnumber, hbehind]

end

end Lexer

/-! ## Atoms -/

/-- A pattern that is not looser than an atom is one. -/
theorem Grammar.Derives.atom_of_looseness {flags : Flags} {g g' : Groups} {ts rest : List Token}
    {bs : List (List Expr)} (h : Derives flags g ts rest (.branches bs) g')
    (hatom : (expression bs).looseness = 0) :
    Derives flags g ts rest (.atom (expression bs)) g' := by
  cases h with
  | alternation hpieces hmore =>
      obtain ⟨fs, bs, rfl⟩ := List.exists_cons_of_ne_nil hmore.begins
      simp [expression, Expr.ofBranches, Expr.looseness] at hatom
  | branch hpieces =>
      cases hpieces with
      | noPieces => simp [expression, Expr.ofBranches, Expr.ofPieces, Expr.looseness] at hatom
      | pieces hpiece hmore =>
          cases hmore with
          | pieces => simp [expression, Expr.ofBranches, Expr.ofPieces, Expr.looseness] at hatom
          | noPieces =>
              cases hpiece with
              | quantified =>
                  simp [expression, Expr.ofBranches, Expr.ofPieces, Expr.looseness] at hatom
              | bare h => simpa [expression, Expr.ofBranches, Expr.ofPieces] using h

/-! ## What the parser makes of it -/

namespace Parser

open Grammar (Replaces)

open Lexer (Item lazyItems closingItems boundItems)

section

variable {flags : Flags} {e : Expr}

theorem run_take {st next : State} {item : Item} {its : List Item}
    (h : stepOn flags st (item :: its) = .shift 1 next) :
    run flags st (item :: its) = run flags next its := run_shift h

theorem run_stay {st next : State} {its : List Item} (h : stepOn flags st its = .shift 0 next) :
    run flags st its = run flags next its := run_shift h

/-- Behind an atom that is a whole pattern the parser looks for a quantifier. -/
theorem run_behind_atom {ls : List Lexeme} (h : run flags {} (items ls) = .ok e)
    (hatom : e.looseness = 0) {l : Lexeme} (hdigit : ∀ c, l.token ≠ .digit c)
    (more : List Item) :
    ∃ groups last, run flags {} (items ls ++ .lexeme l :: more) =
      run flags { mode := .quantifier e, groups, last } (.lexeme l :: more) := by
  obtain ⟨ls', hitems, bs, g, hderives, rfl⟩ := sentence_of_run h
  obtain rfl := items_injective hitems
  have hreplaces : Replaces [] [l.token] := .inr (by simpa using hdigit)
  have hphrase : Grammar.Derives flags {} (ls.map Lexeme.token) [l.token]
      (.atom (Grammar.expression bs)) g := (hderives.atom_of_looseness hatom).behind hreplaces
  obtain ⟨groups, last, -, htakes⟩ := takes_derives hphrase {} ls known_empty rfl trivial
  have hstart : Moves flags {} [] (ls.map Lexeme.token ++ [l.token]) { mode := .atom } :=
    @moves_piece flags {} _ _ _ _ hphrase.begins rfl
  exact ⟨groups, last,
    run_takes_append (.stay hstart htakes) (fun _ => Mode.noConfusion) more⟩

variable {groups : Groups} {start place last : Location} {min : Nat} {max : Option Nat}
  {ds : List Char}

theorem run_lower (behind : List Item) :
    run flags { mode := .quantifier e, groups, last }
        (.lexeme ⟨.quantifierOpen, start⟩ :: boundItems place ds behind) =
      if 2 ^ 32 ≤ Numeral.decimalValue ds then .error (.lexical (tooLarge ds place))
      else
        let mode := Mode.comma e start (Numeral.decimalValue ds)
        run flags { mode, groups, last := place.withLength ds.length } behind := by
  have hopen : run flags { mode := .quantifier e, groups, last }
      (.lexeme ⟨.quantifierOpen, start⟩ :: boundItems place ds behind) =
      run flags { mode := .minimum e start, groups, last := start }
        (boundItems place ds behind) := run_take rfl
  rw [hopen]
  unfold boundItems
  split_ifs
  · exact run_fail rfl
  · exact run_take rfl

theorem run_lazyItems (isLazy : Bool) :
    run flags { mode := .lazyMark e { min, max }, groups, last } (lazyItems place isLazy) =
      .ok (.piece e ⟨min, max, isLazy⟩) := by
  let level : Level := ⟨[], [.piece e ⟨min, max, isLazy⟩]⟩
  cases isLazy with
  | false =>
      have hpiece : run flags { mode := .lazyMark e { min, max }, groups, last } [] =
          run flags { level, groups, last } [] := run_stay rfl
      exact hpiece.trans (run_done rfl)
  | true =>
      have hpiece : run flags { mode := .lazyMark e { min, max }, groups, last }
          [.lexeme ⟨.optional, place.withLength 1⟩] =
          run flags { level, groups, last := place.withLength 1 } [] := run_take rfl
      exact hpiece.trans (run_done rfl)

theorem run_closingItems (isLazy : Bool) :
    run flags { mode := .closingBrace e { min, max }, groups, last } (closingItems place isLazy) =
      .ok (.piece e ⟨min, max, isLazy⟩) := by
  have hclose : run flags { mode := .closingBrace e { min, max }, groups, last }
      (closingItems place isLazy) =
      run flags { mode := .lazyMark e { min, max }, groups, last := place.withLength 1 }
        (lazyItems (place.past ['}']) isLazy) := run_take rfl
  rw [hclose, run_lazyItems]

theorem run_exactly (isLazy : Bool) :
    run flags { mode := .comma e start min, groups, last } (closingItems place isLazy) =
      .ok (.piece e ⟨min, some min, isLazy⟩) := by
  have hstay : run flags { mode := .comma e start min, groups, last }
      (closingItems place isLazy) =
      run flags { mode := .closingBrace e { min, max := some min }, groups, last }
        (closingItems place isLazy) := run_stay rfl
  rw [hstay, run_closingItems]

theorem run_comma (range : Location) (behind : List Item) :
    run flags { mode := .comma e start min, groups, last } (.lexeme ⟨.comma, range⟩ :: behind) =
      run flags { mode := .maximum e start min, groups, last := range } behind := run_take rfl

theorem run_atLeast (isLazy : Bool) :
    run flags { mode := .maximum e start min, groups, last } (closingItems place isLazy) =
      .ok (.piece e ⟨min, none, isLazy⟩) := by
  have hstay : run flags { mode := .maximum e start min, groups, last }
      (closingItems place isLazy) =
      run flags { mode := .closingBrace e { min, max := none }, groups, last }
        (closingItems place isLazy) := run_stay rfl
  rw [hstay, run_closingItems]

theorem run_upper (brace : Location) (isLazy : Bool) :
    run flags { mode := .maximum e start min, groups, last }
        (boundItems place ds (closingItems brace isLazy)) =
      if 2 ^ 32 ≤ Numeral.decimalValue ds then .error (.lexical (tooLarge ds place))
      else if Numeral.decimalValue ds < min then
        .error (.bounds min (Numeral.decimalValue ds) start (brace.withLength 1))
      else .ok (.piece e ⟨min, some (Numeral.decimalValue ds), isLazy⟩) := by
  let max := Numeral.decimalValue ds
  unfold boundItems
  split_ifs with hlarge horder
  · exact run_fail rfl
  · apply run_fail
    simp [stepOn, step, maximum, Nat.not_le.2 horder, closingItems]
  · have htake : run flags { mode := .maximum e start min, groups, last }
        (.lexeme ⟨.number max, place.withLength ds.length⟩ :: closingItems brace isLazy) =
        run flags
          { mode := .closingBrace e { min, max }, groups, last := place.withLength ds.length }
          (closingItems brace isLazy) := by
      apply run_take
      simp [stepOn, step, maximum, max, Nat.le_of_not_lt horder, take]
    rw [htake, run_closingItems]

end

end Parser

/-! ## Patterns -/

/-- A pattern with bounds behind it. -/
def quantified (a : String) (bounds : List Char) (isLazy : Bool) : String :=
  a ++ String.ofList ('{' :: (bounds ++ '}' :: lazyText isLazy))

section

variable {flags : Flags} {a : String} {e : Expr}

/-- An atom with a lower bound behind it, and what the lexer yields for the rest. -/
theorem parsePattern_lower (hstrip : flags.stripWhitespace = false)
    (ha : parsePattern flags a = .ok e) (hatom : e.looseness = 0) {low rest : List Char}
    (hlow : low ≠ [] ∧ ∀ d ∈ low, d.isDigit = true) (hrest : ∀ c ∈ rest.head?, c.isDigit = false)
    {opening lower : Location} (hopening : opening = Location.origin.past a.toList)
    (hlower : lower = opening.past ['{']) {behind : List Lexer.Item}
    (hbehind : ∀ last, Lexer.itemsFrom flags { context := .quantifier, last }
      (placed (lower.past low) rest) = behind) :
    ∃ groups last, parsePattern flags (a ++ String.ofList ('{' :: (low ++ rest))) =
      if 2 ^ 32 ≤ Numeral.decimalValue low then .error (.lexical (tooLarge low lower))
      else
        let mode := Parser.Mode.comma e (opening.withLength 1) (Numeral.decimalValue low)
        Parser.run flags { mode, groups, last } behind := by
  subst hopening hlower
  let opening := Location.origin.past a.toList
  let lower := opening.past ['{']
  let brace : Lexeme := ⟨.quantifierOpen, opening.withLength 1⟩
  let lowerItems := Lexer.boundItems lower low behind
  obtain ⟨words, hwords, hlexes, hrun⟩ := lexes_of_parsePattern hstrip ha
  obtain ⟨mid, hitems⟩ := @Lexer.itemsFrom_of_lexes flags .outside words .origin none hlexes hstrip
    ('{' :: (low ++ rest)) (by simp)
  obtain ⟨mid', hopen⟩ :=
    @Lexer.itemsFrom_of_spells flags opening (low ++ rest) hstrip _ _ _ _ .quantifierOpen mid
  have hlower : ∀ last, Lexer.itemsFrom flags { context := .quantifier, last }
      (placed lower (low ++ rest)) = lowerItems :=
    Lexer.itemsFrom_boundItems hstrip hlow hrest hbehind
  have hread : patternItems flags (a ++ String.ofList ('{' :: (low ++ rest))) =
      Parser.items (Lexer.lexemesAt .origin words) ++ .lexeme brace :: lowerItems := by
    rw [patternItems_eq, String.toList_append, String.toList_ofList, hwords, hitems, ← hwords,
      ← hlower]
    exact congrArg _ hopen
  obtain ⟨groups, last, hatomItems⟩ :=
    @Parser.run_behind_atom flags e _ hrun hatom brace (by simp [brace]) lowerItems
  refine ⟨groups, lower.withLength low.length, ?_⟩
  rw [parsePattern_eq, parseItems, hread, hatomItems, Parser.run_lower]

section

variable {low high : List Char} {opening lower upper : Location}

theorem parsePattern_exactly (hstrip : flags.stripWhitespace = false)
    (ha : parsePattern flags a = .ok e) (hatom : e.looseness = 0)
    (hlow : low ≠ [] ∧ ∀ d ∈ low, d.isDigit = true)
    (hopening : opening = Location.origin.past a.toList) (hlower : lower = opening.past ['{'])
    (isLazy : Bool) :
    let min := Numeral.decimalValue low
    parsePattern flags (quantified a low isLazy) =
      if 2 ^ 32 ≤ min then .error (.lexical (tooLarge low lower))
      else .ok (.piece e ⟨min, some min, isLazy⟩) := by
  obtain ⟨groups, last, hparse⟩ := parsePattern_lower hstrip ha hatom hlow (by simp) hopening hlower
    (Lexer.itemsFrom_closing hstrip isLazy)
  simpa [quantified, Parser.run_exactly] using hparse

theorem parsePattern_atLeast (hstrip : flags.stripWhitespace = false)
    (ha : parsePattern flags a = .ok e) (hatom : e.looseness = 0)
    (hlow : low ≠ [] ∧ ∀ d ∈ low, d.isDigit = true)
    (hopening : opening = Location.origin.past a.toList) (hlower : lower = opening.past ['{'])
    (isLazy : Bool) :
    let min := Numeral.decimalValue low
    parsePattern flags (quantified a (low ++ [',']) isLazy) =
      if 2 ^ 32 ≤ min then .error (.lexical (tooLarge low lower))
      else .ok (.piece e ⟨min, none, isLazy⟩) := by
  obtain ⟨groups, last, hparse⟩ := parsePattern_lower hstrip ha hatom hlow (by simp) hopening hlower
    (Lexer.itemsFrom_comma hstrip (Lexer.itemsFrom_closing hstrip isLazy))
  simpa [quantified, Parser.run_comma, Parser.run_atLeast] using hparse

theorem parsePattern_between (hstrip : flags.stripWhitespace = false)
    (ha : parsePattern flags a = .ok e) (hatom : e.looseness = 0)
    (hlow : low ≠ [] ∧ ∀ d ∈ low, d.isDigit = true)
    (hhigh : high ≠ [] ∧ ∀ d ∈ high, d.isDigit = true)
    (hopening : opening = Location.origin.past a.toList) (hlower : lower = opening.past ['{'])
    (hupper : upper = (lower.past low).past [',']) (isLazy : Bool) :
    let min := Numeral.decimalValue low
    let max := Numeral.decimalValue high
    parsePattern flags (quantified a (low ++ ',' :: high) isLazy) =
      if 2 ^ 32 ≤ min then .error (.lexical (tooLarge low lower))
      else if 2 ^ 32 ≤ max then .error (.lexical (tooLarge high upper))
      else if max < min then
        .error (.bounds min max (opening.withLength 1) ((upper.past high).withLength 1))
      else .ok (.piece e ⟨min, some max, isLazy⟩) := by
  subst hupper
  obtain ⟨groups, last, hparse⟩ := parsePattern_lower hstrip ha hatom hlow (by simp) hopening hlower
    (Lexer.itemsFrom_comma hstrip (Lexer.itemsFrom_boundItems hstrip hhigh (by simp)
      (Lexer.itemsFrom_closing hstrip isLazy)))
  simpa [quantified, Parser.run_comma, Parser.run_upper] using hparse

end

/-- The host reads the quantifier of an expression, and the atom as it is read alone. -/
theorem read_piece (hliteral : flags.literal = false) {pattern : String} {q : Quantifier}
    (ha : parsePattern flags a = .ok e) (h : parsePattern flags pattern = .ok (.piece e q)) :
    ∃ c c' node groups, compileWith flags a = .ok c ∧ compileWith flags pattern = .ok c' ∧
      c'.pattern = c.pattern ++ String.ofList (Host.quantifierText q) ∧
      Host.read (Regex.hostScope c) (Regex.hostPattern c) = some (node, groups) ∧
      Host.read (Regex.hostScope c') (Regex.hostPattern c') =
        some (.repeated node q.min q.max q.lazy, groups) := by
  obtain ⟨c, node, hc, himage, hread⟩ := reads_image hliteral ha
  obtain ⟨c', node', hc', himage', hread'⟩ := reads_image hliteral h
  cases himage' with
  | piece _ himage' =>
      obtain ⟨rfl, hgroups⟩ := himage.unique himage'
      rw [← hgroups] at hread'
      refine ⟨c, c', node, _, hc, hc', ?_, hread, hread'⟩
      obtain ⟨f, hf, rfl⟩ := (compileWith_ok_iff hliteral).1 hc
      obtain ⟨f', hf', rfl⟩ := (compileWith_ok_iff hliteral).1 hc'
      obtain rfl := Except.ok.inj (ha.symm.trans hf)
      obtain rfl := Except.ok.inj (h.symm.trans hf')
      simp [Expr.hostText]

/-- The bounds behind an atom, in each of their three forms, give the quantifier with the values of
their digits, or a fault at the first of them that is too large, or at both if they are in the wrong
order.  The host reads the quantifier from the compiled pattern as it is in the expression. -/
theorem bounds_exact (hstrip : flags.stripWhitespace = false) (hliteral : flags.literal = false)
    (ha : parseWith flags a = .ok e) (hatom : e.looseness = 0) {low high : List Char}
    (hlow : low ≠ [] ∧ ∀ d ∈ low, d.isDigit = true)
    (hhigh : high ≠ [] ∧ ∀ d ∈ high, d.isDigit = true) (isLazy : Bool) :
    let min := Numeral.decimalValue low
    let max := Numeral.decimalValue high
    let opening := Location.origin.past a.toList
    let lower := opening.past ['{']
    let upper := (lower.past low).past [',']
    parseWith flags (quantified a (low ++ ',' :: high) isLazy) =
        (if 2 ^ 32 ≤ min then .error (.lexical (tooLarge low lower))
        else if 2 ^ 32 ≤ max then .error (.lexical (tooLarge high upper))
        else if max < min then
          .error (.bounds min max (opening.withLength 1) ((upper.past high).withLength 1))
        else .ok (.piece e ⟨min, some max, isLazy⟩)) ∧
      parseWith flags (quantified a low isLazy) =
        (if 2 ^ 32 ≤ min then .error (.lexical (tooLarge low lower))
        else .ok (.piece e ⟨min, some min, isLazy⟩)) ∧
      parseWith flags (quantified a (low ++ [',']) isLazy) =
        (if 2 ^ 32 ≤ min then .error (.lexical (tooLarge low lower))
        else .ok (.piece e ⟨min, none, isLazy⟩)) ∧
      ∀ pattern q, parseWith flags pattern = .ok (.piece e q) →
        ∃ c c' node groups, compileWith flags a = .ok c ∧ compileWith flags pattern = .ok c' ∧
          c'.pattern = c.pattern ++ String.ofList (Host.quantifierText q) ∧
          Host.read (Regex.hostScope c) (Regex.hostPattern c) = some (node, groups) ∧
          Host.read (Regex.hostScope c') (Regex.hostPattern c') =
            some (.repeated node q.min q.max q.lazy, groups) := by
  intro min max opening lower upper
  have hparse (p : String) : parseWith flags p = parsePattern flags p := by
    rw [parseWith, if_neg (by simp [hliteral])]
  simp only [hparse] at ha ⊢
  refine ⟨?_, ?_, ?_, fun pattern q => read_piece hliteral ha⟩
  · exact parsePattern_between hstrip ha hatom hlow hhigh rfl rfl rfl isLazy
  · exact parsePattern_exactly hstrip ha hatom hlow rfl rfl isLazy
  · exact parsePattern_atLeast hstrip ha hatom hlow rfl rfl isLazy

/-- Leading zeros do not count, and a bound of eleven digits does not fit. -/
theorem bounds_exact_zeros :
    let low := ['0', '0', '2']
    let high := ['1', '0', '0', '0', '0', '0', '0', '0', '0', '0', '0']
    (({} : Flags).stripWhitespace = false ∧ ({} : Flags).literal = false) ∧
      parseWith {} "." = .ok (.wildcard false) ∧ (Expr.wildcard false).looseness = 0 ∧
      (low ≠ [] ∧ ∀ d ∈ low, d.isDigit = true) ∧ (high ≠ [] ∧ ∀ d ∈ high, d.isDigit = true) ∧
      parseWith {} (quantified "." (low ++ ',' :: high) true) =
        .error (.lexical (tooLarge high ⟨6, 0, 6, 0⟩)) ∧
      parseWith {} (quantified "." low true) =
        .ok (.piece (.wildcard false) ⟨2, some 2, true⟩) ∧
      parseWith {} (quantified "." (low ++ [',']) true) =
        .ok (.piece (.wildcard false) ⟨2, none, true⟩) ∧
      ∃ c c' node groups, compileWith {} "." = .ok c ∧
        compileWith {} (quantified "." low true) = .ok c' ∧
        c'.pattern = c.pattern ++ "\x7b2\x7d?" ∧
        Host.read (Regex.hostScope c) (Regex.hostPattern c) = some (node, groups) ∧
        Host.read (Regex.hostScope c') (Regex.hostPattern c') =
          some (.repeated node 2 (some 2) true, groups) := by
  intro low high
  have hitems : patternItems {} "." = [.lexeme ⟨.wildcard, ⟨0, 0, 0, 1⟩⟩] :=
    @patternItems_of_within 3 _ _ _ (by decide +kernel)
  have ha : parseWith {} "." = .ok (.wildcard false) :=
    @parsePattern_of_within 5 _ _ _ _ hitems rfl
  have hlow : low ≠ [] ∧ ∀ d ∈ low, d.isDigit = true := by simp [low]
  have hhigh : high ≠ [] ∧ ∀ d ∈ high, d.isDigit = true := by simp [high]
  obtain ⟨hbetween, hexactly, hatLeast, hread⟩ := bounds_exact rfl rfl ha rfl hlow hhigh true
  obtain ⟨c, c', node, groups, hc, hc', hpattern, hnode, hrepeated⟩ := hread _ _ hexactly
  have htext : String.ofList (Host.quantifierText ⟨2, some 2, true⟩) = "\x7b2\x7d?" := by
    simp [Host.quantifierText, Numeral.decimal, Numeral.digits, Numeral.digit]
  exact ⟨⟨rfl, rfl⟩, ha, rfl, hlow, hhigh, hbetween, hexactly, hatLeast, c, c', node, groups, hc,
    hc', hpattern.trans (congrArg _ htext), hnode, hrepeated⟩

end

end SchemaPattern
