import SchemaPattern.Proofs.Bounded
import SchemaPattern.Proofs.LocatedFaults
import SchemaPattern.Proofs.Parser.Constructs

/-!
# The texts that faults point to

A fault that is about a construct of several tokens points to the text from the first of them to the
last.  What stands there is what the fault names: the two ends of a range, the bounds with their
braces, or the back-reference with the digits that it takes.
-/

namespace SchemaPattern

/-! ## Numbers -/

theorem Numeral.digitChar_eq {d : Nat} (h : d < 10) : d.digitChar = digit d := by
  have hall : ∀ e ∈ List.range 10, e.digitChar = digit e := by decide
  exact hall d (List.mem_range.2 h)

/-- The number of a back-reference is written with its digits. -/
theorem toList_toString_withDigits {n : Nat} {ds : List (Char × Location)} (hpos : 1 ≤ n)
    (hle : n ≤ 9) (hds : ∀ d ∈ ds, d.1.isDigit = true) :
    (toString (Parser.withDigits n ds)).toList = Numeral.digit n :: ds.map Prod.fst := by
  rw [Nat.toString_eq_repr, Nat.toList_repr]
  induction ds using List.reverseRecOn with
  | nil => rw [Parser.withDigits, List.foldl_nil, Nat.toDigits_of_lt_base (by omega),
      Numeral.digitChar_eq (by omega), List.map_nil]
  | append_singleton ds d ih =>
      obtain ⟨hlt, hdigit⟩ := Numeral.digit_toNat (hds d (by simp))
      have hvalue : 0 < Parser.withDigits n ds :=
        Nat.lt_of_lt_of_le hpos (Parser.le_withDigits n ds)
      have hwith : Parser.withDigits n (ds ++ [d]) =
          10 * Parser.withDigits n ds + (d.1.toNat - 48) := by
        rw [Parser.withDigits_concat, Grammar.withDigit, Nat.mul_comm]
        rfl
      rw [hwith, ← Nat.toDigits_append_toDigits (by omega) hvalue hlt,
        ih fun e he => hds e (List.mem_append_left _ he), Nat.toDigits_of_lt_base hlt,
        Numeral.digitChar_eq hlt, hdigit, List.map_append]
      rfl

/-! ## Constructs in a layout -/

theorem Token.SpelledBy.eq_spelling {t : Token} {text : List Char} (h : t.SpelledBy text)
    (hnumber : ∀ n, t ≠ .number n) : text = t.spelling := by
  cases t with
  | number n => exact absurd rfl (hnumber n)
  | _ => exact h

namespace Lexer

section

variable {flags : Flags} {mode after : Mode} {before text : List Char} {l : Lexeme}
  {ls : List Lexeme}

/-- The last of the lexemes has the last of the text. -/
theorem Laid.last (h : Laid flags mode before text (ls ++ [l]) after) :
    ∃ front word, text = front ++ word ∧ l.token.SpelledBy word := by
  obtain ⟨front, rest, mid, rfl, -, hl⟩ := h.append
  cases hl with
  | @cons _ _ _ gap word _ _ _ _ _ _ hspelled hnil =>
      cases hnil
      exact ⟨front ++ gap, word, by simp, hspelled⟩

/-- The place from the first lexeme to the last one is that of the text from the one to the
other. -/
theorem Laid.join (h : Laid flags mode before text (l :: ls) after) :
    ∃ gap word rest, text = gap ++ (word ++ rest) ∧ l.token.SpelledBy word ∧
      Laid flags (mode.behind l.token) (before ++ (gap ++ word)) rest ls after ∧
      l.range.join (Parser.lastRange l.range ls) = .ofPiece (before ++ gap) (word ++ rest) := by
  cases h with
  | @cons _ _ _ gap word rest t _ _ _ _ hspelled hrest =>
      refine ⟨gap, word, rest, rfl, hspelled, hrest, ?_⟩
      have hlength : (Parser.lastRange (.ofPiece (before ++ gap) word) ls).index -
          (before ++ gap).length + (Parser.lastRange (.ofPiece (before ++ gap) word) ls).length =
            (word ++ rest).length := by
        rcases List.eq_nil_or_concat ls with rfl | ⟨front, m, rfl⟩
        · cases hrest
          simp [Parser.lastRange]
        · rw [List.concat_eq_append] at hrest ⊢
          rw [Parser.lastRange_append]
          have hend := hrest.end_eq
          have hle := hrest.le_index m (by simp)
          simp only [List.length_append] at hend hle ⊢
          change m.range.index - _ + m.range.length = _
          omega
      simp only [Location.join, Location.index_ofPiece, hlength]
      rfl

/-- Where nothing is skipped, the text of lexemes without numbers is that of their spellings. -/
theorem Laid.eq_spellings (h : Laid flags mode before text ls after)
    (hstrip : flags.stripWhitespace = false) (hnumber : ∀ l ∈ ls, ∀ n, l.token ≠ .number n) :
    text = ls.flatMap fun l => l.token.spelling := by
  induction h with
  | nil => rfl
  | cons hgap _ _ hspelled _ ih =>
      obtain rfl := hgap.eq_nil (.inl hstrip)
      obtain rfl := hspelled.eq_spelling (hnumber _ (.head _))
      rw [List.flatMap_cons, List.nil_append, ih fun l hl => hnumber l (.tail _ hl)]

/-- In a class nothing is skipped. -/
theorem Laid.eq_spelling_of_inClass (h : Laid flags mode before text (l :: ls) after)
    (hclass : mode.InClass) (hnumber : ∀ n, l.token ≠ .number n) :
    ∃ rest, text = l.token.spelling ++ rest ∧
      Laid flags (mode.behind l.token) (before ++ l.token.spelling) rest ls after := by
  cases h with
  | cons hgap _ _ hspelled hrest =>
      obtain rfl := hgap.eq_nil (.inr hclass)
      obtain rfl := hspelled.eq_spelling hnumber
      exact ⟨_, rfl, hrest⟩

end

end Lexer

section

variable {flags : Flags} {pattern : String}

/-- The text of the pattern from a lexeme to a later one. -/
theorem fragment_of_items {ls ms : List Lexeme} {l : Lexeme} {its : List Lexer.Item}
    (h : patternItems flags pattern = Parser.items (ls ++ l :: ms) ++ its) :
    ∃ before word rest after, l.token.SpelledBy word ∧
      Lexer.Laid flags (((ls.map Lexeme.token).foldl Mode.behind .outside).behind l.token)
        before rest ms after ∧
      (l.range.join (Parser.lastRange l.range ms)).fragment pattern.toList = word ++ rest := by
  obtain ⟨front, behind, after, hpattern, hlaid, -⟩ := laid_of_items h
  obtain ⟨first, second, mid, rfl, hfirst, hsecond⟩ := hlaid.append
  obtain ⟨gap, word, rest, rfl, hspelled, hrest, hjoin⟩ := hsecond.join
  obtain rfl := hfirst.after_eq
  refine ⟨_, word, rest, after, hspelled, hrest, ?_⟩
  have htext : pattern.toList = ([] ++ first ++ gap) ++ ((word ++ rest) ++ behind) := by
    rw [hpattern]
    simp
  rw [hjoin, htext, Location.fragment_ofPiece]
  simp [hspelled.ne_nil]

/-- The fragment at a lexeme spells its token. -/
theorem spelled_of_mem {l : Lexeme} (h : .lexeme l ∈ patternItems flags pattern) :
    l.token.SpelledBy (l.range.fragment pattern.toList) :=
  (writtenIn_patternItems h).spelled.2

/-! ## Constructs in a pattern -/

open SchemaPattern.Parser (digitLexemes lastPlace lastRange withDigits)

variable {ls : List Lexeme} {its : List Lexer.Item} {first : Location}

/-- From the first character of a range to the second one nothing but the dash is written. -/
theorem fragment_of_range {t u : Token} {low high : Char} {dash last : Location} {depth : Nat}
    (hlow : t.classChar? = some low) (hhigh : u.classChar? = some high)
    (hmode : (ls.map Lexeme.token).foldl Mode.behind .outside = .charClass depth)
    (h : patternItems flags pattern =
      Parser.items (ls ++ [⟨t, first⟩, ⟨.char '-', dash⟩, ⟨u, last⟩]) ++ its) :
    (first.join last).fragment pattern.toList = t.spelling ++ '-' :: u.spelling := by
  have hnumber {t : Token} {c : Char} (hc : t.classChar? = some c) : ∀ n, t ≠ .number n := by
    rintro n rfl
    cases hc
  obtain ⟨before, word, rest, after, hspelled, hlaid, hfragment⟩ := fragment_of_items h
  rw [hmode, Mode.behind_of_classChar hlow] at hlaid
  have hchar : (Token.char '-').classChar? = some '-' := rfl
  obtain ⟨tail, rfl, hdash⟩ := hlaid.eq_spelling_of_inClass trivial (by simp)
  rw [Mode.behind_of_classChar hchar] at hdash
  obtain ⟨nothing, rfl, hnil⟩ := hdash.eq_spelling_of_inClass trivial (hnumber hhigh)
  cases hnil
  rw [hspelled.eq_spelling (hnumber hlow), List.append_nil] at hfragment
  exact hfragment

/-- Bounds begin with their brace and end with the last token. -/
theorem fragment_of_bounds {ms : List Lexeme} {m : Lexeme}
    (h : patternItems flags pattern =
      Parser.items (ls ++ ⟨.quantifierOpen, first⟩ :: (ms ++ [m])) ++ its) :
    ∃ between word, m.token.SpelledBy word ∧
      (first.join m.range).fragment pattern.toList = '{' :: (between ++ word) := by
  obtain ⟨before, word, rest, after, hspelled, hlaid, hfragment⟩ := fragment_of_items h
  obtain ⟨between, last, rfl, hlast⟩ := hlaid.last
  rw [Parser.lastRange_append] at hfragment
  rw [hspelled.eq_spelling (by simp)] at hfragment
  exact ⟨between, last, hlast, hfragment⟩

theorem lastRange_digitLexemes (place : Location) (ds : List (Char × Location)) :
    lastRange place (digitLexemes ds) = lastPlace place ds := by
  induction ds generalizing place with
  | nil => rfl
  | cons d ds ih => exact ih d.2

/-- A back-reference begins with a backslash and ends with its last digit. -/
theorem fragment_of_reference {n : Nat} {ds : List (Char × Location)}
    (h : patternItems flags pattern =
      Parser.items (ls ++ ⟨.backReference n, first⟩ :: digitLexemes ds) ++ its) :
    (∃ between, (first.join (lastPlace first ds)).fragment pattern.toList =
        '\\' :: (between ++ [Numeral.digit (withDigits n ds % 10)])) ∧
      (flags.stripWhitespace = false →
        (first.join (lastPlace first ds)).fragment pattern.toList =
          '\\' :: (toString (withDigits n ds)).toList) := by
  have hmem {l : Lexeme} (hl : l ∈ ⟨.backReference n, first⟩ :: digitLexemes ds) :
      .lexeme l ∈ patternItems flags pattern := by
    rw [h]
    exact List.mem_append_left _ (List.mem_map_of_mem (List.mem_append_right _ hl))
  obtain ⟨hpos, hle⟩ : 1 ≤ n ∧ n ≤ 9 := (writtenIn_patternItems (hmem (.head _))).spelled.1
  have hdigits : ∀ d ∈ ds, d.1.isDigit = true := fun d hd =>
    (writtenIn_patternItems (hmem (.tail _ (List.mem_map_of_mem hd)))).spelled.1
  obtain ⟨before, word, rest, after, hspelled, hlaid, hfragment⟩ := fragment_of_items h
  rw [lastRange_digitLexemes, hspelled.eq_spelling (by simp)] at hfragment
  constructor
  · rw [hfragment]
    -- Without further digits the last one is that of the token.
    rcases List.eq_nil_or_concat ds with rfl | ⟨front, d, rfl⟩
    · cases hlaid
      exact ⟨[], by simp [Token.spelling, withDigits, Nat.mod_eq_of_lt (by omega : n < 10)]⟩
    · rw [List.concat_eq_append] at hlaid hdigits ⊢
      rw [Parser.digitLexemes_concat] at hlaid
      obtain ⟨between, last, rfl, hlast⟩ := hlaid.last
      obtain ⟨hlt, hdigit⟩ := Numeral.digit_toNat (hdigits d (by simp))
      have hmod : withDigits n (front ++ [d]) % 10 = d.1.toNat - 48 := by
        rw [Parser.withDigits_concat, Grammar.withDigit]
        change (_ * 10 + (d.1.toNat - 48)) % 10 = _
        omega
      rw [hmod, hdigit, hlast.eq_spelling (by simp)]
      exact ⟨Numeral.digit n :: between, rfl⟩
  · intro hstrip
    have hnumber : ∀ l ∈ digitLexemes ds, ∀ n, l.token ≠ .number n := by
      intro l hl m
      obtain ⟨d, -, rfl⟩ := List.mem_map.1 hl
      simp
    rw [hfragment, toList_toString_withDigits hpos hle hdigits, hlaid.eq_spellings hstrip hnumber,
      digitLexemes, List.flatMap_map, List.map_eq_flatMap]
    rfl

end

/-! ## Faults -/

theorem EscapeName.toList_text {t : Token} {name : EscapeName} (h : t.escapeName? = some name) :
    t.spelling = name.text.toList := by
  cases t with
  | multiEscape letter =>
      obtain rfl := Option.some.inj h
      simp [Token.spelling, text]
  | categoryEscape category negated =>
      obtain rfl := Option.some.inj h
      cases negated <;> simp [Token.spelling, text]
  | _ => cases h

theorem Report.fragment_of_location {r : Report} {l : Location} (h : r.location = some l)
    (pattern : String) : r.fragment pattern = some (String.ofList (l.fragment pattern.toList)) := by
  unfold location at h
  split at h
  · next hsubject =>
    cases h
    simp only [fragment, hsubject]
  · cases h

/-- What a fault says of the text that it points to, and of the tokens that stand there. -/
def Fault.Shows (flags : Flags) (pattern : String) (text : List Char) : Fault → Prop
  | unknownEscape name _ => text = name.text.toList
  | charRange low high first last => high < low ∧ ∃ ls t dash u its,
      patternItems flags pattern =
        Parser.items (ls ++ [⟨t, first⟩, ⟨.char '-', dash⟩, ⟨u, last⟩]) ++ its ∧
      t.classChar? = some low ∧ u.classChar? = some high ∧ text = t.spelling ++ '-' :: u.spelling
  | bounds min max first last => max < min ∧ ∃ ls range comma bound its between,
      patternItems flags pattern =
        Parser.items (ls ++ [⟨.quantifierOpen, first⟩, ⟨.number min, range⟩, ⟨.comma, comma⟩,
          ⟨.number max, bound⟩]) ++ its ∧
      ((∃ more, its = .lexeme ⟨.quantifierClose, last⟩ :: more ∧
          text = '{' :: (between ++ ['}'])) ∨
        (∀ brace, its[0]? ≠ some (.lexeme ⟨.quantifierClose, brace⟩)) ∧ last = bound ∧
          ∃ word, (Token.number max).SpelledBy word ∧ text = '{' :: (between ++ word))
  | backReference index first last => ∃ ls n ds its between,
      patternItems flags pattern =
        Parser.items (ls ++ ⟨.backReference n, first⟩ :: Parser.digitLexemes ds) ++ its ∧
      Parser.withDigits n ds = index ∧ last = Parser.lastPlace first ds ∧
      text = '\\' :: (between ++ [Numeral.digit (index % 10)]) ∧
      (flags.stripWhitespace = false → text = '\\' :: (toString index).toList)
  | modifier .. | lexical _ | grammar .. | host _ => True

namespace Parser

theorem items_concat (ls : List Lexeme) (l : Lexeme) (its : List Lexer.Item) :
    items ls ++ .lexeme l :: its = items (ls ++ [l]) ++ its := by
  simp [items]

section

variable {flags : Flags} {pattern : String} {st : State} {ls : List Lexeme}
  {its : List Lexer.Item} {f : Fault}

theorem Fails.shows (h : Fails st its f) (hmarks : Marks ls st) (hreading : Reading ls st.mode)
    (hitems : patternItems flags pattern = items ls ++ its) {l : Location}
    (hl : f.report.location = some l) : f.Shows flags pattern (l.fragment pattern.toList) := by
  obtain ⟨before, construct, rfl, hconstruct⟩ := hreading.construct
  cases h with
  | lexical | unexpected | ended => trivial
  | bounds hmode heq hbounds hrest =>
      subst heq
      rw [hmode] at hconstruct
      obtain ⟨range, comma, rfl⟩ := hconstruct
      obtain rfl := Option.some.inj hl
      rw [items_concat, List.append_assoc] at hitems
      obtain ⟨between, word, hword, htext⟩ := fragment_of_bounds hitems
      exact ⟨hbounds, before, range, comma, _, _, between, hitems,
        .inr ⟨hrest, rfl, word, hword, htext⟩⟩
  | braced hmode heq hbounds =>
      subst heq
      rw [hmode] at hconstruct
      obtain ⟨range, comma, rfl⟩ := hconstruct
      obtain rfl := Option.some.inj hl
      rw [items_concat, List.append_assoc] at hitems
      -- The text ends with the brace, and the lexemes that the fault names end before it.
      have hbraced := hitems
      rw [items_concat, List.append_assoc] at hbraced
      obtain ⟨between, word, rfl, htext⟩ := fragment_of_bounds hbraced
      exact ⟨hbounds, before, range, comma, _, _, between, hitems, .inl ⟨_, rfl, htext⟩⟩
  | charRange hmode heq hhigh hlt =>
      subst heq
      have hlexing := hreading.lexing
      rw [hmode] at hconstruct hlexing
      obtain ⟨t, dash, rfl, hlow⟩ := hconstruct
      obtain rfl := Option.some.inj hl
      rw [items_concat, List.append_assoc] at hitems
      have hdash : (Token.char '-').classChar? = some '-' := rfl
      rw [List.map_append, List.foldl_append, List.map_cons, List.foldl_cons, List.map_cons,
        List.foldl_cons, Mode.behind_of_classChar hlow, Mode.behind_of_classChar hdash] at hlexing
      exact ⟨Char.not_le.1 hlt, before, t, dash, _, _, hitems, hlow, hhigh,
        fragment_of_range hlow hhigh hlexing hitems⟩
  | @unknownEscape escape _ _ heq hname =>
      subst heq
      obtain rfl := Option.some.inj hl
      have hnumber : ∀ n, escape.token ≠ .number n := by
        intro n heq
        rw [heq] at hname
        cases hname
      have hspelled := spelled_of_mem (hitems ▸ List.mem_append_right _ (.head _))
      exact (hspelled.eq_spelling hnumber).trans (EscapeName.toList_text hname)
  | @backReference _ start hmode =>
      rw [hmode] at hconstruct
      obtain ⟨n, ds, rfl, rfl⟩ := hconstruct
      obtain rfl := Option.some.inj hl
      have hlast : st.last = lastPlace start ds := by
        rw [hmarks.last, lastRange_append]
        exact lastRange_digitLexemes _ ds
      rw [hlast]
      obtain ⟨⟨between, htext⟩, hkept⟩ := fragment_of_reference hitems
      exact ⟨before, n, ds, its, between, hitems, rfl, rfl, htext, hkept⟩

end

end Parser

/-- Each fault of the parser points into the pattern, and to the text that it is about. -/
theorem faults_show_text {flags : Flags} {pattern : String} {f : Fault}
    (h : parsePattern flags pattern = .error f) :
    ∃ l, f.report.location = some l ∧ l.index + l.length ≤ pattern.length ∧
      f.report.fragment pattern = some (String.ofList (l.fragment pattern.toList)) ∧
      f.Shows flags pattern (l.fragment pattern.toList) := by
  obtain ⟨l, hlocation, hlocated⟩ := located_of_parsePattern h
  have hle := hlocated.end_le
  rw [String.length_toList] at hle
  refine ⟨l, hlocation, hle, Report.fragment_of_location hlocation pattern, ?_⟩
  rw [parsePattern_eq] at h
  obtain ⟨taken, rest, st, hreaches, hfails⟩ := Parser.fails_of_parseItems h
  obtain ⟨ls, rfl, hmarks⟩ := hreaches.marks
  obtain ⟨ms, hms, hreading⟩ := hreaches.reading
  obtain rfl := Parser.items_injective hms
  exact hfails.shows hmarks hreading hreaches.split hlocation

/-- Blanks are skipped in bounds, and they belong to the text that the fault points to. -/
theorem faults_show_text_bounds :
    let flags : Flags := { stripWhitespace := true }
    let pattern := "a\x7b 3, 2 \x7d"
    let f : Fault := .bounds 3 2 ⟨1, 0, 1, 1⟩ ⟨8, 0, 8, 1⟩
    parsePattern flags pattern = .error f ∧ f.report.fragment pattern = some "\x7b 3, 2 \x7d" ∧
      ∃ l, f.report.location = some l ∧ l.index + l.length ≤ pattern.length ∧
        f.report.fragment pattern = some (String.ofList (l.fragment pattern.toList)) ∧
        f.Shows flags pattern (l.fragment pattern.toList) := by
  intro flags pattern f
  have hitems : patternItems flags pattern =
      [.lexeme ⟨.char 'a', ⟨0, 0, 0, 1⟩⟩, .lexeme ⟨.quantifierOpen, ⟨1, 0, 1, 1⟩⟩,
        .lexeme ⟨.number 3, ⟨3, 0, 3, 1⟩⟩, .lexeme ⟨.comma, ⟨4, 0, 4, 1⟩⟩,
        .lexeme ⟨.number 2, ⟨6, 0, 6, 1⟩⟩, .lexeme ⟨.quantifierClose, ⟨8, 0, 8, 1⟩⟩] :=
    @patternItems_of_within 15 _ _ _ (by decide +kernel)
  have hparse : parsePattern flags pattern = .error f :=
    @parsePattern_of_within 10 _ _ _ _ hitems rfl
  exact ⟨hparse, by decide +kernel, faults_show_text hparse⟩

end SchemaPattern
