import SchemaPattern.Proofs.Lexer.Run

/-!
# How tokens are spelled

A piece of a pattern spells a token, depending on the context it stands in and on the character
behind it.  From a piece that spells a token the lexer takes that token.
-/

namespace SchemaPattern

namespace Lexer

/-! ## Spellings -/

/-- A backslash and what makes an escape of it. -/
inductive SpellsEscape : List Char → Token → Prop
  | newline : SpellsEscape ['\\', 'n'] (.singleEscape '\n')
  | carriageReturn : SpellsEscape ['\\', 'r'] (.singleEscape '\r')
  | tab : SpellsEscape ['\\', 't'] (.singleEscape '\t')
  | single {c : Char} (h : c ∈ metaChars) : SpellsEscape ['\\', c] (.singleEscape c)
  | multi {c : Char} (h : c ∈ multiLetters) : SpellsEscape ['\\', c] (.multiEscape c)
  | category {name : List Char} (negated : Bool) (hne : name ≠ [])
      (h : ∀ c ∈ name, isNameChar c = true) :
      SpellsEscape ('\\' :: (if negated then 'P' else 'p') :: '{' :: (name ++ ['}']))
        (.categoryEscape (String.ofList name) negated)

/-- The characters that are tokens of their own outside of classes and quantifiers. -/
def operators : List (Char × Token) :=
  [(')', .groupClose), ('|', .alternation), ('?', .optional), ('*', .zeroOrMore),
   ('+', .oneOrMore), ('.', .wildcard), ('^', .lineStart), ('$', .lineEnd)]

/-- The context behind a class that stands in so many others. -/
def Context.behindClass : Nat → Context
  | 0 => .outside
  | n + 1 => .charClass n .inside

def Context.InClass : Context → Prop
  | .charClass .. => True
  | _ => False

/-- In a context a text, with the next character behind it, spells a token, which leads to another
context. -/
inductive Spells (extended : Bool) : Context → List Char → Option Char → Token → Context → Prop
  | operator {c : Char} {t : Token} {next : Option Char} (h : (c, t) ∈ operators) :
      Spells extended .outside [c] next t .outside
  | groupOpen {next : Option Char} (h : next ≠ some '?') :
      Spells extended .outside ['('] next .groupOpen .outside
  | nonCapturing {next : Option Char} (h : extended = true) :
      Spells extended .outside ['(', '?', ':'] next .nonCapturingGroupOpen .outside
  | quantifierOpen {next : Option Char} :
      Spells extended .outside ['{'] next .quantifierOpen .quantifier
  | classOpen {next : Option Char} :
      Spells extended .outside ['['] next .classOpen (.charClass 0 .start)
  | escape {text : List Char} {t : Token} {next : Option Char} (h : SpellsEscape text t) :
      Spells extended .outside text next t .outside
  | reference {d : Char} {next : Option Char} (h : d.isDigit = true) (hne : d ≠ '0') :
      Spells extended .outside ['\\', d] next (.backReference (d.toNat - '0'.toNat)) .outside
  | digit {d : Char} {next : Option Char} (h : d.isDigit = true) :
      Spells extended .outside [d] next (.digit d) .outside
  | char {c : Char} {next : Option Char} (hmeta : c ∈ metaChars → c = '-')
      (hdigit : c.isDigit = false) : Spells extended .outside [c] next (.char c) .outside
  | number {ds : List Char} {next : Option Char} (hne : ds ≠ [])
      (hdigits : ∀ d ∈ ds, d.isDigit = true) (hnext : ∀ c ∈ next, c.isDigit = false)
      (hlimit : Numeral.decimalValue ds < boundLimit) :
      Spells extended .quantifier ds next (.number (Numeral.decimalValue ds)) .quantifier
  | comma {next : Option Char} : Spells extended .quantifier [','] next .comma .quantifier
  | quantifierClose {next : Option Char} :
      Spells extended .quantifier ['}'] next .quantifierClose .outside
  | negation {n : Nat} {next : Option Char} :
      Spells extended (.charClass n .start) ['^'] next .negation (.charClass n .inside)
  | caret {n : Nat} {spot : Spot} {next : Option Char} (h : spot ≠ .start) :
      Spells extended (.charClass n spot) ['^'] next (.char '^') (.charClass n .inside)
  | subtrahend {n : Nat} {next : Option Char} :
      Spells extended (.charClass n .beforeSubtrahend) ['['] next .classOpen
        (.charClass (n + 1) .start)
  | classClose {n : Nat} {spot : Spot} {next : Option Char} :
      Spells extended (.charClass n spot) [']'] next .classClose (.behindClass n)
  | subtract {n : Nat} {spot : Spot} :
      Spells extended (.charClass n spot) ['-'] (some '[') .subtract
        (.charClass n .beforeSubtrahend)
  | dash {n : Nat} {spot : Spot} {next : Option Char} (h : next ≠ some '[') :
      Spells extended (.charClass n spot) ['-'] next (.char '-') (.charClass n .inside)
  | classEscape {n : Nat} {spot : Spot} {text : List Char} {t : Token} {next : Option Char}
      (h : SpellsEscape text t) :
      Spells extended (.charClass n spot) text next t (.charClass n .inside)
  | classDigit {n : Nat} {spot : Spot} {d : Char} {next : Option Char} (h : d.isDigit = true) :
      Spells extended (.charClass n spot) [d] next (.digit d) (.charClass n .inside)
  | classChar {n : Nat} {spot : Spot} {c : Char} {next : Option Char}
      (hmeta : c ∉ ['^', '[', ']', '-', '\\']) (hdigit : c.isDigit = false) :
      Spells extended (.charClass n spot) [c] next (.char c) (.charClass n .inside)

section

variable {extended : Bool} {context after : Context} {text : List Char} {next : Option Char}
  {t : Token}

theorem SpellsEscape.eq_cons (h : SpellsEscape text t) : ∃ c rest, text = '\\' :: c :: rest := by
  cases h <;> exact ⟨_, _, rfl⟩

theorem Spells.ne_nil (h : Spells extended context text next t after) : text ≠ [] := by
  cases h with
  | number hne => exact hne
  | escape h | classEscape h =>
      obtain ⟨c, rest, rfl⟩ := h.eq_cons
      simp
  | _ => simp

/-- Outside of classes it matters of the next character only whether it is a digit or a question
mark. -/
theorem Spells.of_next {other : Option Char} (h : Spells extended context text next t after)
    (hother : other = next ∨ ¬ after.InClass ∧ ∀ c ∈ other, c ≠ '?' ∧ c.isDigit = false) :
    Spells extended context text other t after := by
  rcases hother with rfl | ⟨hafter, hother⟩
  · exact h
  cases h with
  | operator h => exact .operator h
  | groupOpen h => exact .groupOpen fun hnext => (hother '?' hnext).1 rfl
  | nonCapturing h => exact .nonCapturing h
  | quantifierOpen => exact .quantifierOpen
  | escape h => exact .escape h
  | reference h hne => exact .reference h hne
  | digit h => exact .digit h
  | char hmeta hdigit => exact .char hmeta hdigit
  | number hne hdigits hnext hlimit =>
      exact .number hne hdigits (fun c hc => (hother c hc).2) hlimit
  | comma => exact .comma
  | quantifierClose => exact .quantifierClose
  | classClose => exact .classClose
  | _ => exact absurd trivial hafter

end

/-! ## Steps -/

/-- With the flag for it, blanks and comments outside of classes are skipped. -/
def Skipped (flags : Flags) (context : Context) (c : Char) : Prop :=
  ¬ context.InClass ∧ flags.stripWhitespace = true ∧ (isBlank c = true ∨ c = '#')

section

variable {flags : Flags} {st : State} {place : Location} {text rest : List Char}

theorem index_past (place : Location) (text : List Char) :
    (place.past text).index = place.index + text.length := by
  induction text generalizing place with
  | nil => rfl
  | cons c text ih =>
      rw [Location.past, List.foldl_cons, ← Location.past, ih, place.index_next, List.length_cons]
      omega

theorem length_past {place : Location} (h : place.length = 0) (text : List Char) :
    (place.past text).length = 0 := by
  induction text generalizing place with
  | nil => exact h
  | cons c text ih => exact ih (place.length_next c)

theorem drop_placed (place : Location) (text rest : List Char) :
    (placed place (text ++ rest)).drop text.length = placed (place.past text) rest := by
  rw [placed_append, ← length_placed place text, List.drop_left]

theorem stepOn_ready (hscan : st.scan = .ready) (c : Placed) (chars : List Placed) :
    stepOn flags st (c :: chars) = between flags st c chars[0]? chars[1]? := by
  simp [stepOn, step, hscan]

theorem between_outside {c : Placed} {p1 p2 : Option Placed} (h : st.context = .outside)
    (hskip : ¬ Skipped flags .outside c.char) :
    between flags st c p1 p2 = outside flags st c p1 p2 := by
  simp only [Skipped, Context.InClass, not_false_eq_true, true_and, not_and, not_or] at hskip
  simp only [between, h]
  grind

theorem between_quantifier {c : Placed} {p1 p2 : Option Placed} (h : st.context = .quantifier)
    (hskip : ¬ Skipped flags .quantifier c.char) :
    between flags st c p1 p2 = inQuantifier st c := by
  simp only [Skipped, Context.InClass, not_false_eq_true, true_and, not_and, not_or] at hskip
  simp only [between, h]
  grind

theorem between_class {c : Placed} {p1 p2 : Option Placed} {n : Nat} {spot : Spot}
    (h : st.context = .charClass n spot) :
    between flags st c p1 p2 = inClass st n spot c p1 p2 := by
  simp only [between, h]

/-- The lexer yields the token for the text, and goes on with the rest in another context. -/
def TakesToken (flags : Flags) (st : State) (place : Location) (text rest : List Char) (t : Token)
    (after : Context) : Prop :=
  ∃ last, itemsFrom flags st (placed place (text ++ rest)) =
    .lexeme ⟨t, place.withLength text.length⟩ ::
      itemsFrom flags { context := after, last := some last } (placed (place.past text) rest)

/-- A text that one step takes, the last character of which stands at `last`. -/
theorem takesToken_of_step {last : Location} {t : Token} {context : Context} (hne : text ≠ [])
    (h : stepOn flags st (placed place (text ++ rest)) = token text.length place last t context)
    (hlast : last.index + 1 = place.index + text.length) :
    TakesToken flags st place text rest t context := by
  have hpos := List.length_pos_of_ne_nil hne
  have hlength : last.index - place.index + 1 = text.length := by omega
  refine ⟨last, ?_⟩
  rw [itemsFrom_emit h, drop_placed, Location.through, hlength]

theorem itemsFrom_fail {cause : LexicalCause} {fault : Location} {chars : List Placed}
    (h : stepOn flags st chars = fail st cause fault) :
    itemsFrom flags st chars = [.fault ⟨cause, fault⟩] := by
  rw [itemsFrom_emit h, itemsFrom_stop]
  simp [stepOn, step]

/-! ## Digits and names -/

theorem itemsFrom_digits {ds : List Char} (hdigits : ∀ d ∈ ds, d.isDigit = true)
    (start : Location) (read : List Char) {last : Location} (hlast : last.index + 1 = place.index) :
    ∃ last', last'.index + 1 = (place.past ds).index ∧
      itemsFrom flags { st with scan := .number start read, last := some last }
          (placed place (ds ++ rest)) =
        itemsFrom flags { st with scan := .number start (ds.reverse ++ read), last := some last' }
          (placed (place.past ds) rest) := by
  induction ds generalizing place read last with
  | nil => exact ⟨last, hlast, rfl⟩
  | cons d ds ih =>
      have hd : d.isDigit = true := hdigits d (by simp)
      have hshift : stepOn flags { st with scan := .number start read, last := some last }
          (placed place (d :: ds ++ rest)) =
          .shift 1 { st with scan := .number start (d :: read), last := some place } := by
        simp [stepOn, step, placed, hd]
      obtain ⟨last', hlast', hitems⟩ :=
        ih (fun c hc => hdigits c (by simp [hc])) (d :: read) (index_past place [d]).symm
      refine ⟨last', hlast', ?_⟩
      rw [itemsFrom_shift hshift, List.reverse_cons, List.append_assoc]
      exact hitems

theorem itemsFrom_name {name : List Char} (hname : ∀ c ∈ name, isNameChar c = true)
    (start : Location) (negated : Bool) (read : List Char) (last : Location) :
    ∃ last', itemsFrom flags { st with scan := .category start negated read, last := some last }
          (placed place (name ++ rest)) =
        itemsFrom flags
          { st with scan := .category start negated (name.reverse ++ read), last := some last' }
          (placed (place.past name) rest) := by
  induction name generalizing place read last with
  | nil => exact ⟨last, rfl⟩
  | cons c name ih =>
      have hc : isNameChar c = true := hname c (by simp)
      have hbrace : c ≠ '}' := by
        rintro rfl
        revert hc
        decide
      have hshift : stepOn flags
          { st with scan := .category start negated read, last := some last }
          (placed place (c :: name ++ rest)) =
          .shift 1 { st with scan := .category start negated (c :: read), last := some place } := by
        simp [stepOn, step, placed, categoryName, hc, hbrace]
      obtain ⟨last', hitems⟩ := ih (fun c hc => hname c (by simp [hc])) (c :: read) place
      refine ⟨last', ?_⟩
      rw [itemsFrom_shift hshift, List.reverse_cons, List.append_assoc]
      exact hitems

end

/-! ## What is spelled is read -/

section

variable {flags : Flags} {st : State} {place : Location} {text rest : List Char} {t : Token}

theorem itemsFrom_category {name : List Char} (negated : Bool) (hne : name ≠ [])
    (hname : ∀ c ∈ name, isNameChar c = true) (start last : Location)
    (hstart : place.index = start.index + 3) :
    ∃ last', itemsFrom flags { st with scan := .category start negated [], last := some last }
          (placed place (name ++ '}' :: rest)) =
        .lexeme ⟨.categoryEscape (String.ofList name) negated,
            start.withLength (name.length + 4)⟩ ::
          itemsFrom flags { context := st.inside, last := some last' }
            (placed (place.past (name ++ ['}'])) rest) := by
  obtain ⟨mid, hitems⟩ := itemsFrom_name hname start negated [] last
  refine ⟨place.past name, ?_⟩
  have hclose : stepOn flags
      { st with scan := .category start negated (name.reverse ++ []), last := some mid }
      (placed (place.past name) ('}' :: rest)) =
      token 1 start (place.past name) (.categoryEscape (String.ofList name) negated) st.inside := by
    simp [stepOn, step, placed, categoryName, hne, State.inside]
  have hthrough : start.through (place.past name) = start.withLength (name.length + 4) := by
    rw [Location.through, index_past, hstart]
    congr 1
    omega
  rw [hitems, itemsFrom_emit hclose, hthrough, Location.past, Location.past, List.foldl_append]
  rfl

theorem stepOn_escape {context : Context} (hscan : st.scan = .ready)
    (hcontext : st.context = context) (hquantifier : context ≠ .quantifier)
    (hskip : ¬ Skipped flags context '\\') (chars : List Placed) :
    stepOn flags st (⟨'\\', place⟩ :: chars) = escape st place chars[0]? chars[1]? := by
  rw [stepOn_ready hscan]
  cases context with
  | outside => exact between_outside hcontext hskip
  | quantifier => exact absurd rfl hquantifier
  | charClass n spot => exact between_class hcontext

theorem not_skipped {flags : Flags} {context : Context} {c : Char} (hblank : isBlank c = false)
    (hhash : c ≠ '#') : ¬ Skipped flags context c := by
  rintro ⟨-, -, h | h⟩
  · rw [hblank] at h
    cases h
  · exact hhash h

/-- What holds of all characters of a list can be found by trying them. -/
theorem forall_mem_of_all {chars : List Char} {property : Char → Prop} [DecidablePred property]
    (h : (chars.all fun c => decide (property c)) = true) : ∀ c ∈ chars, property c := by
  simpa using h

theorem plain_metaChars : ∀ c ∈ metaChars, c ≠ 'n' ∧ c ≠ 'r' ∧ c ≠ 't' :=
  forall_mem_of_all (by decide)

theorem plain_multiLetters :
    ∀ c ∈ multiLetters, c ≠ 'n' ∧ c ≠ 'r' ∧ c ≠ 't' ∧ c ∉ metaChars :=
  forall_mem_of_all (by decide)

theorem takesToken_escape {context : Context} (h : SpellsEscape text t)
    (hscan : st.scan = .ready) (hcontext : st.context = context)
    (hquantifier : context ≠ .quantifier) :
    TakesToken flags st place text rest t st.inside := by
  have hskip : ¬ Skipped flags context '\\' := not_skipped (by decide) (by decide)
  have hescape := @stepOn_escape flags st place context hscan hcontext hquantifier hskip
  have hpair {c : Char} {t : Token} (hc : ∀ p2, escape st place (some ⟨c, place.next '\\'⟩) p2 =
      token 2 place (place.next '\\') t st.inside) :
      TakesToken flags st place ['\\', c] rest t st.inside := by
    refine takesToken_of_step (by simp) ((hescape _).trans (hc _)) ?_
    change (place.past ['\\']).index + 1 = _
    rw [index_past]
    rfl
  cases h with
  | newline => exact hpair fun p2 => rfl
  | carriageReturn => exact hpair fun p2 => rfl
  | tab => exact hpair fun p2 => rfl
  | single h =>
      have := plain_metaChars _ h
      exact hpair fun p2 => by simp [escape, this, h]
  | multi h =>
      have := plain_multiLetters _ h
      exact hpair fun p2 => by simp [escape, this, h]
  | category negated hne hname =>
      rename_i name
      let letter := if negated then 'P' else 'p'
      have hletter : letter = 'P' ∨ letter = 'p' := by
        cases negated <;> simp [letter]
      have hnegated : decide (letter = 'P') = negated := by
        cases negated <;> simp [letter]
      have hshift : stepOn flags st
          (placed place ('\\' :: letter :: '{' :: (name ++ ['}']) ++ rest)) =
          .shift 3 { st with
            scan := .category place negated []
            last := some (place.past ['\\', letter]) } := by
        refine (hescape _).trans ?_
        rw [← hnegated]
        rcases hletter with hletter | hletter <;> rw [hletter] <;> rfl
      obtain ⟨last, hitems⟩ := @itemsFrom_category flags st (place.past ['\\', letter, '{']) rest
        name negated hne hname place (place.past ['\\', letter]) (index_past _ _)
      refine ⟨last, ?_⟩
      rw [itemsFrom_shift hshift]
      simpa [Location.past, placed] using hitems

theorem notMem_of_isDigit {d : Char} {others : List Char} (hd : d.isDigit = true)
    (hothers : ∀ c ∈ others, c.isDigit = false) : d ∉ others := fun hmem => by
  rw [hothers d hmem] at hd
  cases hd

theorem takesToken_reference {d : Char} (hcontext : st.context = .outside)
    (hscan : st.scan = .ready) (hd : d.isDigit = true) (hne : d ≠ '0') :
    TakesToken flags st place ['\\', d] rest (.backReference (d.toNat - '0'.toNat)) .outside := by
  have hinside : st.inside = .outside := by simp [State.inside, hcontext]
  have hletters : d ∉ ['n', 'r', 't', 'p', 'P'] :=
    notMem_of_isDigit hd (forall_mem_of_all (by decide))
  have hmeta : d ∉ metaChars := notMem_of_isDigit hd (forall_mem_of_all (by decide))
  have hmulti : d ∉ multiLetters := notMem_of_isDigit hd (forall_mem_of_all (by decide))
  simp only [List.mem_cons, List.not_mem_nil, or_false, not_or] at hletters
  have hstep := @stepOn_escape flags st place .outside hscan hcontext (by simp)
    (not_skipped (by decide) (by decide))
  have hlast : (place.past ['\\']).index + 1 = place.index + 2 := by
    rw [index_past]
    rfl
  refine takesToken_of_step (by simp) ((hstep _).trans ?_) hlast
  simp [escape, placed, Location.past, hletters, hmeta, hmulti, hd, hne, hcontext, hinside]

/-- The digits of a bound are read one by one, and behind the last of them the bound is closed. -/
theorem itemsFrom_bound {ds : List Char} (hcontext : st.context = .quantifier)
    (hscan : st.scan = .ready) (hne : ds ≠ []) (hdigits : ∀ d ∈ ds, d.isDigit = true)
    (hrest : ∀ c ∈ rest.head?, c.isDigit = false) :
    ∃ last, let closing : State :=
        { context := .quantifier, scan := .number place ds.reverse, last := some last }
      itemsFrom flags st (placed place (ds ++ rest)) =
          itemsFrom flags closing (placed (place.past ds) rest) ∧
        stepOn flags closing (placed (place.past ds) rest) =
          closeNumber closing place ds.reverse ∧
        closing.sinceStart place = place.withLength ds.length := by
  obtain ⟨d, more, rfl⟩ := List.exists_cons_of_ne_nil hne
  have hd : d.isDigit = true := hdigits d (by simp)
  have hshift : stepOn flags st (placed place (d :: more ++ rest)) =
      .shift 1 { st with scan := .number place [d], last := some place } := by
    refine (stepOn_ready hscan _ _).trans ((between_quantifier hcontext ?_).trans ?_)
    · rintro ⟨-, -, hskip⟩
      refine @notMem_of_isDigit d [' ', '\t', '\r', '\n', '#'] hd
        (forall_mem_of_all (by decide)) ?_
      simpa [isBlank, or_assoc] using hskip
    · simp [inQuantifier, hd]
  have hmore : ∀ c ∈ more, c.isDigit = true := fun c hc => hdigits c (by simp [hc])
  obtain ⟨last, hlast, hitems⟩ := @itemsFrom_digits flags st (place.past [d]) rest more hmore place
    [d] place (index_past place [d]).symm
  have hindex : last.index + 1 = place.index + (d :: more).length :=
    hlast.trans (index_past place (d :: more))
  have hread : (d :: more).reverse = more.reverse ++ [d] := by simp
  refine ⟨last, ?_, ?_, ?_⟩
  · rw [itemsFrom_shift hshift, hread, ← hcontext]
    exact hitems
  · rcases rest with _ | ⟨c, rest⟩
    · rfl
    · simp [stepOn, step, placed, hrest c rfl]
  · have hpos : 0 < (d :: more).length := by simp
    have hlength : last.index - place.index + 1 = (d :: more).length := by omega
    rw [State.sinceStart, Option.getD_some, Location.through, hlength]

theorem takesToken_number {ds : List Char} (hcontext : st.context = .quantifier)
    (hscan : st.scan = .ready) (hne : ds ≠ []) (hdigits : ∀ d ∈ ds, d.isDigit = true)
    (hrest : ∀ c ∈ rest.head?, c.isDigit = false)
    (hlimit : Numeral.decimalValue ds < boundLimit) :
    TakesToken flags st place ds rest (.number (Numeral.decimalValue ds)) .quantifier := by
  obtain ⟨last, hitems, hclose, hplace⟩ :=
    @itemsFrom_bound flags st place rest ds hcontext hscan hne hdigits hrest
  rw [closeNumber, List.reverse_reverse, if_pos hlimit, hplace] at hclose
  exact ⟨last, hitems.trans (itemsFrom_emit hclose)⟩

/-- Digits of a bound that is too large are a fault, which stands where they do. -/
theorem itemsFrom_tooLarge {ds : List Char} (hcontext : st.context = .quantifier)
    (hscan : st.scan = .ready) (hne : ds ≠ []) (hdigits : ∀ d ∈ ds, d.isDigit = true)
    (hrest : ∀ c ∈ rest.head?, c.isDigit = false)
    (hlimit : ¬ Numeral.decimalValue ds < boundLimit) :
    itemsFrom flags st (placed place (ds ++ rest)) =
      [.fault ⟨.boundTooLarge (String.ofList ds), place.withLength ds.length⟩] := by
  obtain ⟨last, hitems, hclose, hplace⟩ :=
    @itemsFrom_bound flags st place rest ds hcontext hscan hne hdigits hrest
  rw [closeNumber, List.reverse_reverse, if_neg hlimit, hplace] at hclose
  exact hitems.trans (itemsFrom_fail hclose)

/-- The lexer takes a token from the text that spells it. -/
theorem takesToken_of_spells {context after : Context} {next : Option Char}
    (h : Spells flags.extended context text next t after) (hnext : rest.head? = next)
    (hscan : st.scan = .ready) (hcontext : st.context = context)
    (hskip : ∀ c ∈ text.head?, ¬ Skipped flags context c) :
    TakesToken flags st place text rest t after := by
  have hsingle {c : Char} {t : Token} {after : Context}
      (hbetween : between flags st ⟨c, place⟩ (placed (place.next c) rest)[0]?
        (placed (place.next c) rest)[1]? = token 1 place place t after) :
      TakesToken flags st place [c] rest t after :=
    takesToken_of_step (by simp) ((stepOn_ready hscan _ _).trans hbetween) rfl
  cases h with
  | operator h =>
      refine hsingle ((between_outside hcontext (hskip _ rfl)).trans ?_)
      simp only [operators, List.mem_cons, Prod.mk.injEq, List.not_mem_nil, or_false] at h
      rcases h with ⟨rfl, rfl⟩ | ⟨rfl, rfl⟩ | ⟨rfl, rfl⟩ | ⟨rfl, rfl⟩ | ⟨rfl, rfl⟩ | ⟨rfl, rfl⟩ |
        ⟨rfl, rfl⟩ | ⟨rfl, rfl⟩ <;> rfl
  | groupOpen h =>
      refine hsingle ((between_outside hcontext (hskip _ rfl)).trans ?_)
      rcases rest with _ | ⟨c, rest⟩
      · rfl
      · have hc : c ≠ '?' := fun hc => h (by rw [← hnext, hc]; rfl)
        simp [outside, placed, hc]
  | nonCapturing h =>
      refine takesToken_of_step (by simp) ((stepOn_ready hscan _ _).trans
        ((between_outside hcontext (hskip _ rfl)).trans ?_)) (index_past place ['(', '?', ':'])
      simp [outside, placed, h]
  | quantifierOpen => exact hsingle (between_outside hcontext (hskip _ rfl))
  | classOpen => exact hsingle (between_outside hcontext (hskip _ rfl))
  | escape h =>
      have hinside : st.inside = .outside := by simp [State.inside, hcontext]
      have htakes := @takesToken_escape flags st place text rest t _ h hscan hcontext (by simp)
      rwa [hinside] at htakes
  | reference h hne => exact takesToken_reference hcontext hscan h hne
  | digit h =>
      refine hsingle ((between_outside hcontext (hskip _ rfl)).trans ?_)
      unfold outside
      split <;> simp_all
  | char hmeta hdigit =>
      refine hsingle ((between_outside hcontext (hskip _ rfl)).trans ?_)
      unfold outside
      split <;> simp_all [metaChars]
  | number hne hdigits hnextDigit hlimit =>
      exact takesToken_number hcontext hscan hne hdigits (hnext ▸ hnextDigit) hlimit
  | comma => exact hsingle (between_quantifier hcontext (hskip _ rfl))
  | quantifierClose => exact hsingle (between_quantifier hcontext (hskip _ rfl))
  | negation => exact hsingle (between_class hcontext)
  | caret h =>
      refine hsingle ((between_class hcontext).trans ?_)
      simp [inClass, h]
  | subtrahend => exact hsingle (between_class hcontext)
  | classClose =>
      rename_i n spot
      refine hsingle ((between_class hcontext).trans ?_)
      cases n <;> rfl
  | subtract =>
      refine hsingle ((between_class hcontext).trans ?_)
      obtain ⟨more, rfl⟩ := List.head?_eq_some_iff.1 hnext
      rfl
  | dash h =>
      refine hsingle ((between_class hcontext).trans ?_)
      rcases rest with _ | ⟨c, rest⟩
      · rfl
      · have hc : c ≠ '[' := fun hc => h (by rw [← hnext, hc]; rfl)
        simp [inClass, placed, hc]
  | classEscape h =>
      rename_i n spot
      have hinside : st.inside = .charClass n .inside := by simp [State.inside, hcontext]
      have htakes := @takesToken_escape flags st place text rest t _ h hscan hcontext (by simp)
      rwa [hinside] at htakes
  | classDigit h =>
      refine hsingle ((between_class hcontext).trans ?_)
      unfold inClass
      split <;> simp_all
  | classChar hmeta hdigit =>
      refine hsingle ((between_class hcontext).trans ?_)
      unfold inClass
      split <;> simp_all

end

end Lexer

end SchemaPattern
