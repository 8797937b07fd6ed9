import SchemaPattern.Proofs.GroupSet
import SchemaPattern.Proofs.Parser.Moves

/-!
# The parser reads what the grammar derives

Behind a phrase that is derived the parser is where it was before, with what was read added.
-/

namespace SchemaPattern

namespace Grammar

/-! ## How phrases begin -/

/-- Behind an atom these tokens do not begin a quantifier. -/
def NoQuantifier (rest : List Token) : Prop := ∀ t ∈ rest.head?, ¬ t.StartsQuantifier

theorem not_startsQuantifier_of_startsAtom {t : Token} (h : t.startsAtom = true) :
    ¬ t.StartsQuantifier := by
  rintro (rfl | rfl | rfl | rfl) <;> cases h

theorem startsAtom_of_classChar {t : Token} {c : Char} (h : t.classChar? = some c) :
    t.startsAtom = true := by
  cases t <;> first | rfl | cases h

theorem startsAtom_of_escape {t : Token} {name : EscapeName} (h : t.escapeName? = some name) :
    t.startsAtom = true := by
  cases t <;> first | rfl | cases h

theorem Class.head {ts rest : List Token} {c : CharClass} (h : Class ts rest c) :
    ∃ us, ts = .classOpen :: us := by
  cases h with
  | group => rename_i negative _ _ _ _; cases negative <;> exact ⟨_, rfl⟩
  | difference => rename_i negative _ _ _ _ _ _ _; cases negative <;> exact ⟨_, rfl⟩

/-- How a phrase begins, unless it is empty. -/
def Phrase.Begins (ts : List Token) : Phrase → Prop
  | .atom _ | .piece _ => ∃ t us, ts = t :: us ∧ t.startsAtom = true
  | .pieces _ => ∀ t ∈ ts.head?, t.startsAtom = true
  | .branches bs => bs ≠ []

theorem Derives.begins {flags : Flags} {g g' : Groups} {ts rest : List Token} {phrase : Phrase}
    (h : Derives flags g ts rest phrase g') : phrase.Begins ts := by
  induction h with
  | literal hc => exact ⟨_, _, rfl, startsAtom_of_classChar hc⟩
  | escape hname hchars => exact ⟨_, _, rfl, startsAtom_of_escape hname⟩
  | wildcard => exact ⟨_, _, rfl, rfl⟩
  | lineStart => exact ⟨_, _, rfl, rfl⟩
  | lineEnd => exact ⟨_, _, rfl, rfl⟩
  | charClass h =>
      obtain ⟨us, rfl⟩ := h.head
      exact ⟨_, us, rfl, rfl⟩
  | backReference h hclosed => exact ⟨_, _, rfl, rfl⟩
  | capturing h ih => exact ⟨_, _, rfl, rfl⟩
  | nonCapturing h ih => exact ⟨_, _, rfl, rfl⟩
  | bare h ih => exact ih
  | quantified h hq ih =>
      rename_i e q
      obtain ⟨t, us, rfl, hstart⟩ := ih
      exact ⟨t, _, rfl, hstart⟩
  | noPieces =>
      intro t ht
      cases ht
  | pieces h hrest ih ihrest =>
      obtain ⟨t, us, rfl, hstart⟩ := ih
      intro u hu
      cases hu
      exact hstart
  | branch h ih => exact List.cons_ne_nil _ _
  | alternation h hrest ih ihrest => exact List.cons_ne_nil _ _

theorem noQuantifier_of_pieces {flags : Flags} {g g' : Groups} {ts rest : List Token}
    {es : List Expr} (h : Derives flags g ts rest (.pieces es) g') (hrest : NoQuantifier rest) :
    NoQuantifier (ts ++ rest) := by
  cases ts with
  | nil => exact hrest
  | cons t us =>
      intro u hu
      cases hu
      exact not_startsQuantifier_of_startsAtom (h.begins t rfl)

end Grammar

namespace Parser

open Grammar

/-! ## Levels -/

/-- What the groups of the parser are for the grammar. -/
def Groups.known (g : Groups) : Grammar.Groups := ⟨g.count, {n | g.closed.contains n = true}⟩

namespace Level

def withPieces (level : Level) (es : List Expr) : Level :=
  { level with pieces := es.reverse ++ level.pieces }

/-- The first of the branches goes on the current one. -/
def withBranches (level : Level) : List (List Expr) → Level
  | [] => level
  | [es] => level.withPieces es
  | es :: bs => (level.withPieces es).nextBranch.withBranches bs

theorem withPieces_cons (level : Level) (e : Expr) (es : List Expr) :
    level.withPieces (e :: es) = (level.add e).withPieces es := by
  simp [withPieces, add]

theorem withBranches_cons (level : Level) (es : List Expr) {bs : List (List Expr)}
    (h : bs ≠ []) :
    level.withBranches (es :: bs) = (level.withPieces es).nextBranch.withBranches bs := by
  cases bs with
  | nil => exact absurd rfl h
  | cons es' bs => rfl

theorem close_withBranches (level : Level) (es : List Expr) (bs : List (List Expr)) :
    (level.withBranches (es :: bs)).close =
      .ofBranches (level.branches.reverse ++ .ofPieces (level.pieces.reverse ++ es) ::
        bs.map .ofPieces) := by
  induction bs generalizing level es with
  | nil => simp [withBranches, withPieces, close, currentBranch]
  | cons es' bs ih =>
      rw [withBranches_cons _ _ (List.cons_ne_nil _ _), ih]
      simp [withPieces, nextBranch, currentBranch]

theorem close_expression {bs : List (List Expr)} (h : bs ≠ []) :
    (({} : Level).withBranches bs).close = expression bs := by
  cases bs with
  | nil => exact absurd rfl h
  | cons es bs => exact close_withBranches {} es bs

end Level

/-! ## Lexemes of tokens -/

section

variable {ls : List Lexeme} {t : Token} {ts us : List Token}

theorem eq_cons_of_map_token (h : ls.map Lexeme.token = t :: ts) :
    ∃ range later, ls = ⟨t, range⟩ :: later ∧ later.map Lexeme.token = ts := by
  obtain ⟨⟨u, range⟩, later, rfl, hl, hlater⟩ := List.map_eq_cons_iff.1 h
  cases hl
  exact ⟨range, later, rfl, hlater⟩

theorem eq_single_of_map_token (h : ls.map Lexeme.token = [t]) : ∃ range, ls = [⟨t, range⟩] := by
  obtain ⟨range, later, rfl, hlater⟩ := eq_cons_of_map_token h
  rw [List.map_eq_nil_iff.1 hlater]
  exact ⟨range, rfl⟩

end

/-! ## Quantifiers -/

section

variable {flags : Flags} {st : State} {ls : List Lexeme} {ts rest : List Token}

theorem takes_repetition {m : Nat} {n : Option Nat} (h : Repetition ts m n) (st : State)
    (e : Expr) (hls : ls.map Lexeme.token = ts) :
    ∃ last, Takes flags { st with mode := .quantifier e } ls rest
      { st with mode := .lazyMark e { min := m, max := n }, last } := by
  cases h with
  | optional =>
      obtain ⟨range, rfl⟩ := eq_single_of_map_token hls
      refine ⟨range, Moves.takes ?_⟩
      exact .optional rfl
  | zeroOrMore =>
      obtain ⟨range, rfl⟩ := eq_single_of_map_token hls
      refine ⟨range, Moves.takes ?_⟩
      exact .zeroOrMore rfl
  | oneOrMore =>
      obtain ⟨range, rfl⟩ := eq_single_of_map_token hls
      refine ⟨range, Moves.takes ?_⟩
      exact .oneOrMore rfl
  | exactly n =>
      obtain ⟨brace, ls, rfl, h₁⟩ := eq_cons_of_map_token hls
      obtain ⟨number, ls, rfl, h₂⟩ := eq_cons_of_map_token h₁
      obtain ⟨range, rfl⟩ := eq_single_of_map_token h₂
      refine ⟨range, .one (.openBrace rfl) <| .one (.minimum rfl) <| .stay (.exactly rfl ?_) ?_⟩
      · simp
      · exact (Moves.closeBrace rfl).takes
  | atLeast n =>
      obtain ⟨brace, ls, rfl, h₁⟩ := eq_cons_of_map_token hls
      obtain ⟨number, ls, rfl, h₂⟩ := eq_cons_of_map_token h₁
      obtain ⟨comma, ls, rfl, h₃⟩ := eq_cons_of_map_token h₂
      obtain ⟨range, rfl⟩ := eq_single_of_map_token h₃
      refine ⟨range, .one (.openBrace rfl) <| .one (.minimum rfl) <| .one (.comma rfl) <|
        .stay (.atLeast rfl ?_) ?_⟩
      · simp
      · exact (Moves.closeBrace rfl).takes
  | between hle =>
      obtain ⟨brace, ls, rfl, h₁⟩ := eq_cons_of_map_token hls
      obtain ⟨low, ls, rfl, h₂⟩ := eq_cons_of_map_token h₁
      obtain ⟨comma, ls, rfl, h₃⟩ := eq_cons_of_map_token h₂
      obtain ⟨high, ls, rfl, h₄⟩ := eq_cons_of_map_token h₃
      obtain ⟨range, rfl⟩ := eq_single_of_map_token h₄
      exact ⟨range, .one (.openBrace rfl) <| .one (.minimum rfl) <| .one (.comma rfl) <|
        .one (.maximum rfl hle) (Moves.closeBrace rfl).takes⟩

theorem takes_quantifier {q : Quantifier} (h : QuantifierTokens ts q) (st : State) (e : Expr)
    (hls : ls.map Lexeme.token = ts) (hrest : NoQuantifier rest) :
    ∃ last, Takes flags { st with mode := .quantifier e } ls rest
      ({ st with last }.withPiece (.piece e q)) := by
  cases h with
  | greedy h =>
      obtain ⟨last, htakes⟩ := takes_repetition h st e hls
      refine ⟨last, htakes.last (.greedy rfl fun hhead => ?_)⟩
      exact hrest _ hhead (.inl rfl)
  | lazy h =>
      obtain ⟨ls, mark, rfl, hrepetition, hmark⟩ := List.map_eq_append_iff.1 hls
      obtain ⟨range, rfl⟩ := eq_single_of_map_token hmark
      obtain ⟨last, htakes⟩ := takes_repetition h st e hrepetition
      refine ⟨range, htakes.trans (Moves.takes ?_)⟩
      exact @Moves.lazy _ _ _ _ e ⟨_, _, false⟩ rfl

/-! ## Classes -/

theorem takes_members {ms : List ClassMember} (h : Members ts rest ms) (st : State)
    (k : OpenClass) (ls : List Lexeme) (hls : ls.map Lexeme.token = ts) :
    ∃ last, Takes flags { st with mode := .members k } ls rest
      { st with mode := .members { k with members := ms.reverse ++ k.members }, last } := by
  induction h generalizing st ls k with
  | nil =>
      rw [List.map_eq_nil_iff.1 hls]
      exact ⟨st.last, .refl⟩
  | escape hname hchars h ih =>
      obtain ⟨range, ls, rfl, hlater⟩ := eq_cons_of_map_token hls
      subst hlater
      obtain ⟨last, htakes⟩ := ih { st with last := range } (k.add (.escape ⟨_, _⟩)) ls rfl
      refine ⟨last, .one (.memberEscape rfl hname hchars) ?_⟩
      simpa [OpenClass.add] using htakes
  | char hc hdash h ih =>
      obtain ⟨range, ls, rfl, hlater⟩ := eq_cons_of_map_token hls
      subst hlater
      obtain ⟨last, htakes⟩ := ih { st with last := range } (k.add (.char _)) ls rfl
      refine ⟨last, .one (.member rfl hc hdash) ?_⟩
      simpa [OpenClass.add] using htakes
  | range hlow hhigh hle h ih =>
      rename_i t u ts rest low high ms
      obtain ⟨start, ls, rfl, h₁⟩ := eq_cons_of_map_token hls
      obtain ⟨dash, ls, rfl, h₂⟩ := eq_cons_of_map_token h₁
      obtain ⟨range, ls, rfl, hlater⟩ := eq_cons_of_map_token h₂
      subst hlater
      obtain ⟨last, htakes⟩ := ih { st with last := range } (k.add (.range ⟨low, high⟩)) ls rfl
      have hdash : DashAhead (.char '-' :: u :: (ls.map Lexeme.token ++ rest)) :=
        ⟨u, _, rfl, (by rintro rfl; cases hhigh), (by rintro rfl; cases hhigh)⟩
      refine ⟨last, .step (.dash rfl hlow hdash) <| .one (.rangeEnd rfl hhigh hle) ?_⟩
      simpa [OpenClass.add] using htakes

theorem moves_opening {negative : Bool} (hmode : st.mode = .atom)
    (hls : ls.map Lexeme.token = opening negative) (hrest : rest.head? ≠ some .negation) :
    ∃ last, Moves flags st ls rest { st with mode := .members { negative }, last } := by
  cases negative with
  | false =>
      obtain ⟨range, rfl⟩ := eq_single_of_map_token hls
      exact ⟨range, .openClass hmode hrest⟩
  | true =>
      obtain ⟨bracket, ls, rfl, hlater⟩ := eq_cons_of_map_token hls
      obtain ⟨range, rfl⟩ := eq_single_of_map_token hlater
      exact ⟨range, .openNegative hmode⟩

theorem moves_subtract {negative : Bool} {k : OpenClass} (hmode : st.mode = .members k)
    (hne : k.members ≠ []) (hls : ls.map Lexeme.token = .subtract :: opening negative)
    (hrest : rest.head? ≠ some .negation) :
    ∃ last, Moves flags st ls rest
      { st with mode := .members { negative, outer := k.charGroup :: k.outer }, last } := by
  obtain ⟨dash, ls, rfl, hbracket⟩ := eq_cons_of_map_token hls
  cases negative with
  | false =>
      obtain ⟨range, rfl⟩ := eq_single_of_map_token hbracket
      exact ⟨range, .subtract hmode hne hrest⟩
  | true =>
      obtain ⟨bracket, ls, rfl, hlater⟩ := eq_cons_of_map_token hbracket
      obtain ⟨range, rfl⟩ := eq_single_of_map_token hlater
      exact ⟨range, .subtractNegative hmode hne⟩

theorem members_head {ms : List ClassMember} (h : Members ts rest ms) (hne : ms ≠ []) :
    ∃ t us, ts = t :: us ∧ t ≠ .negation := by
  cases h with
  | nil => exact absurd rfl hne
  | escape hname hchars h => exact ⟨_, _, rfl, (by rintro rfl; cases hname)⟩
  | char hc hdash h => exact ⟨_, _, rfl, (by rintro rfl; cases hc)⟩
  | range hlow hhigh hle h => exact ⟨_, _, rfl, (by rintro rfl; cases hlow)⟩

theorem takes_charGroup (flags : Flags) {negative : Bool} {ms : List ClassMember}
    (h : Members ts rest ms) (hne : ms ≠ []) (st : State) (outer : List CharGroup)
    (hls : ls.map Lexeme.token = ts) :
    ∃ k last, Takes flags { st with mode := .members { negative, outer } } ls rest
        { st with mode := .members k, last } ∧
      k.charGroup = ⟨negative, ms⟩ ∧ k.outer = outer ∧ k.members ≠ [] := by
  obtain ⟨last, htakes⟩ := takes_members h st { negative, outer } ls hls
  refine ⟨_, last, htakes, ?_, rfl, ?_⟩
  · simp [OpenClass.charGroup]
  · simpa using hne

theorem takes_class (flags : Flags) {c : CharClass} (h : Class ts rest c) :
    ∃ negative t body, ts = opening negative ++ t :: body ∧ t ≠ .negation ∧
      ∀ (st : State) (outer : List CharGroup) (ls : List Lexeme),
        ls.map Lexeme.token = t :: body →
          ∃ last, Takes flags { st with mode := .members { negative, outer } } ls rest
            { st with mode := .closing c outer, last } := by
  induction h with
  | group h hne =>
      rename_i negative ts rest ms
      obtain ⟨t, us, rfl, ht⟩ := members_head h hne
      refine ⟨negative, t, us ++ [.classClose], by simp, ht, fun st outer ls hls => ?_⟩
      obtain ⟨first, close, rfl, hfirst, hclose⟩ :=
        List.map_eq_append_iff.1 (hls.trans (List.cons_append ..).symm)
      obtain ⟨range, rfl⟩ := eq_single_of_map_token hclose
      obtain ⟨k, last, htakes, hgroup, rfl, hmembers⟩ := takes_charGroup flags h hne st outer hfirst
      rw [← hgroup]
      refine ⟨range, htakes.trans (Moves.takes ?_)⟩
      exact .closeClass rfl hmembers
  | difference h hne hsub ih =>
      rename_i negative ts us rest ms subtrahend
      obtain ⟨t, body, rfl, ht⟩ := members_head h hne
      obtain ⟨inner, u, vs, rfl, hu, htakesInner⟩ := ih
      refine ⟨negative, t, body ++ (.subtract :: opening inner ++ (u :: vs ++ [.classClose])),
        by simp, ht, fun st outer ls hls => ?_⟩
      obtain ⟨first, behind, rfl, hfirst, hbehind⟩ :=
        List.map_eq_append_iff.1 (hls.trans (List.cons_append ..).symm)
      obtain ⟨bracket, behind, rfl, hbracket, hbehind'⟩ := List.map_eq_append_iff.1 hbehind
      obtain ⟨second, close, rfl, hsecond, hclose⟩ := List.map_eq_append_iff.1 hbehind'
      obtain ⟨range, rfl⟩ := eq_single_of_map_token hclose
      obtain ⟨k, last, htakes, hgroup, rfl, hmembers⟩ := takes_charGroup flags h hne st outer hfirst
      obtain ⟨start, hsubtract⟩ : ∃ next, Moves flags { st with mode := .members k, last } bracket
          ((second ++ [(⟨.classClose, range⟩ : Lexeme)]).map Lexeme.token ++ rest)
          { st with
            mode := .members { negative := inner, outer := k.charGroup :: k.outer }
            last := next } := by
        apply moves_subtract rfl hmembers hbracket
        rw [List.map_append, hsecond]
        simpa using hu
      obtain ⟨_, hinner⟩ :=
        htakesInner { st with last := start } (k.charGroup :: k.outer) second hsecond
      rw [← hgroup]
      refine ⟨range, Takes.trans ?_ (.step hsubtract (hinner.trans (Moves.takes ?_)))⟩
      · rw [hbehind]
        simpa using htakes
      · exact .closeOuter rfl

theorem takes_reference {n k opened : Nat} (h : Reference opened n ts rest k) (st : State)
    (start : Location) (hcount : st.groups.count = opened)
    (hclosed : st.groups.closed.contains k = true) (hls : ls.map Lexeme.token = ts) :
    ∃ last, Takes flags { st with mode := .reference n start } ls rest
      ({ st with last }.withAtom (.backReference k)) := by
  induction h generalizing st ls with
  | done h =>
      rw [List.map_eq_nil_iff.1 hls]
      refine ⟨st.last, Moves.takes ?_⟩
      exact .reference rfl (by rwa [hcount]) hclosed
  | digit hdigit hle h ih =>
      obtain ⟨range, ls, rfl, hlater⟩ := eq_cons_of_map_token hls
      obtain ⟨last, htakes⟩ := ih { st with last := range } hcount hclosed hlater
      exact ⟨last, .one (.digit rfl hdigit (by rwa [hcount])) htakes⟩

end

/-! ## Expressions -/

/-- The state behind a phrase. -/
def State.reads (st : State) : Phrase → State
  | .atom e => st.withAtom e
  | .piece e => st.withPiece e
  | .pieces es => { st with mode := .branch, level := st.level.withPieces es }
  | .branches bs => { st with mode := .branch, level := st.level.withBranches bs }

/-- What the parser is about to read when a phrase begins. -/
def startMode : Phrase → Mode
  | .atom _ => .atom
  | _ => .branch

/-- What stands behind a phrase does not belong to it. -/
def EndsAt (rest : List Token) : Phrase → Prop
  | .atom _ => True
  | _ => NoQuantifier rest

theorem known_opening (g : Groups) : { g with count := g.count + 1 }.known = g.known.opening := rfl

theorem known_closing (g : Groups) (n : Nat) :
    { g with closed := g.closed.insert n }.known = g.known.closing n := by
  have hset : {m | (g.closed.insert n).contains m = true} =
      insert n {m | g.closed.contains m = true} := by
    ext m
    exact GroupSet.contains_insert
  simp only [Groups.known, Grammar.Groups.closing, hset]

theorem moves_piece {flags : Flags} {st : State} {ts behind rest : List Token} {e : Expr}
    (h : (Phrase.atom e).Begins ts) (hbehind : behind = ts ++ rest) :
    Moves flags { st with mode := .branch } [] behind { st with mode := .atom } := by
  obtain ⟨t, us, rfl, hstart⟩ := h
  subst hbehind
  exact .piece rfl hstart

/-- An atom of one token. -/
theorem takes_leaf {flags : Flags} {g : Grammar.Groups} {rest : List Token} {t : Token} {e : Expr}
    {st : State} {ls : List Lexeme} (hgroups : st.groups.known = g)
    (hls : ls.map Lexeme.token = [t])
    (h : ∀ range, Moves flags { st with mode := .atom } [⟨t, range⟩] rest
      ({ st with last := range }.withAtom e)) :
    ∃ groups last, groups.known = g ∧ Takes flags { st with mode := .atom } ls rest
      ({ st with groups, last }.withAtom e) := by
  obtain ⟨range, rfl⟩ := eq_single_of_map_token hls
  exact ⟨st.groups, range, hgroups, (h range).takes⟩

theorem takes_derives {flags : Flags} {g g' : Grammar.Groups} {ts rest : List Token}
    {phrase : Phrase} (h : Derives flags g ts rest phrase g') (st : State) (ls : List Lexeme)
    (hgroups : st.groups.known = g) (hls : ls.map Lexeme.token = ts) (hrest : EndsAt rest phrase) :
    ∃ groups last, groups.known = g' ∧ Takes flags { st with mode := startMode phrase } ls rest
      ({ st with groups, last }.reads phrase) := by
  -- The state stays general: a phrase inside others is read from wherever they have led.
  induction h generalizing st ls with
  | literal hc => exact takes_leaf hgroups hls fun range => .literal rfl hc
  | escape hname hchars => exact takes_leaf hgroups hls fun range => .escape rfl hname hchars
  | wildcard => exact takes_leaf hgroups hls fun range => .wildcard rfl
  | lineStart => exact takes_leaf hgroups hls fun range => .lineStart rfl
  | lineEnd => exact takes_leaf hgroups hls fun range => .lineEnd rfl
  | charClass h =>
      rename_i behindClass _
      obtain ⟨negative, t, body, rfl, ht, htakesBody⟩ := takes_class flags h
      obtain ⟨bracket, behind, rfl, hbracket, hbehind⟩ := List.map_eq_append_iff.1 hls
      obtain ⟨start, hopening⟩ : ∃ start, Moves flags { st with mode := .atom } bracket
          (behind.map Lexeme.token ++ behindClass)
          { st with mode := .members { negative }, last := start } := by
        apply moves_opening rfl hbracket
        rw [hbehind]
        simpa using ht
      obtain ⟨last, hbody⟩ := htakesBody { st with last := start } [] behind hbehind
      refine ⟨st.groups, last, hgroups, .step hopening (hbody.last ?_)⟩
      exact .charClass rfl
  | backReference h hclosed =>
      subst hgroups
      obtain ⟨range, ls, rfl, hlater⟩ := eq_cons_of_map_token hls
      obtain ⟨last, htakes⟩ :=
        takes_reference h { st with last := range } range rfl hclosed hlater
      exact ⟨st.groups, last, rfl, .one (.openReference rfl) htakes⟩
  | capturing h ih =>
      subst hgroups
      obtain ⟨inside, close, rfl, hinside, hclose⟩ := List.map_eq_append_iff.1 hls
      obtain ⟨range, body, rfl, hbody⟩ := eq_cons_of_map_token hinside
      obtain ⟨last, rfl⟩ := eq_single_of_map_token hclose
      obtain ⟨groups, place, rfl, htakes⟩ :=
        ih ({ st with last := range }.openGroup true) body (known_opening st.groups) hbody
          (by simp [EndsAt, NoQuantifier, Token.StartsQuantifier])
      refine ⟨{ groups with closed := groups.closed.insert (st.groups.count + 1) }, last,
        known_closing _ _, .one (.openGroup rfl) (htakes.trans (Moves.takes ?_))⟩
      rw [← Level.close_expression h.begins]
      exact @Moves.closeGroup _ _ _ _ ⟨some _, st.level⟩ st.openGroups rfl rfl
  | nonCapturing h ih =>
      obtain ⟨inside, close, rfl, hinside, hclose⟩ := List.map_eq_append_iff.1 hls
      obtain ⟨range, body, rfl, hbody⟩ := eq_cons_of_map_token hinside
      obtain ⟨last, rfl⟩ := eq_single_of_map_token hclose
      obtain ⟨groups, place, hknown, htakes⟩ :=
        ih ({ st with last := range }.openGroup false) body hgroups hbody
          (by simp [EndsAt, NoQuantifier, Token.StartsQuantifier])
      refine ⟨groups, last, hknown, .one (.openUncounted rfl) (htakes.trans (Moves.takes ?_))⟩
      rw [← Level.close_expression h.begins]
      exact @Moves.closeGroup _ _ _ _ ⟨none, st.level⟩ st.openGroups rfl rfl
  | bare h ih =>
      obtain ⟨groups, last, hknown, htakes⟩ := ih st ls hgroups hls trivial
      refine ⟨groups, last, hknown, .stay (moves_piece h.begins (by rw [hls])) (htakes.last ?_)⟩
      exact .bare rfl hrest
  | quantified h hq ih =>
      rename_i us rest e q
      obtain ⟨first, second, rfl, hfirst, rfl⟩ := List.map_eq_append_iff.1 hls
      obtain ⟨groups, place, hknown, htakes⟩ := ih st first hgroups hfirst trivial
      obtain ⟨last, hquantifier⟩ :=
        takes_quantifier hq { st with groups, last := place } e rfl hrest
      exact ⟨groups, last, hknown, .stay (moves_piece h.begins (by rw [hls, List.append_assoc]))
        (htakes.trans hquantifier)⟩
  | noPieces =>
      rw [List.map_eq_nil_iff.1 hls]
      exact ⟨st.groups, st.last, hgroups, .refl⟩
  | pieces h hmore ih ihmore =>
      rename_i e es
      obtain ⟨first, second, rfl, hfirst, rfl⟩ := List.map_eq_append_iff.1 hls
      obtain ⟨groups, last, hknown, htakes⟩ :=
        ih st first hgroups hfirst (noQuantifier_of_pieces hmore hrest)
      obtain ⟨groups', last', hknown', hmoreTakes⟩ :=
        ihmore { st with groups, last, level := st.level.add e } second hknown rfl hrest
      refine ⟨groups', last', hknown', htakes.trans ?_⟩
      simp only [State.reads, Level.withPieces_cons]
      exact hmoreTakes
  | branch h ih =>
      exact ih st ls hgroups hls hrest
  | alternation h hmore ih ihmore =>
      rename_i es bs
      obtain ⟨first, behind, rfl, hfirst, hbehind⟩ := List.map_eq_append_iff.1 hls
      obtain ⟨bar, second, rfl, rfl⟩ := eq_cons_of_map_token hbehind
      obtain ⟨groups, last, hknown, htakes⟩ := ih st first hgroups hfirst
        (by simp [EndsAt, NoQuantifier, Token.StartsQuantifier])
      obtain ⟨groups', last', hknown', hmoreTakes⟩ :=
        ihmore { st with groups, last := bar, level := (st.level.withPieces es).nextBranch } second
          hknown rfl hrest
      refine ⟨groups', last', hknown', htakes.trans (.one (.bar rfl) ?_)⟩
      simp only [State.reads, Level.withBranches_cons _ _ hmore.begins]
      exact hmoreTakes

theorem known_empty : ({} : Groups).known = {} := by
  have hset : {n | ({} : GroupSet).contains n = true} = ∅ := by
    ext n
    simp [GroupSet.contains_empty]
  simp only [Groups.known, hset]

theorem run_of_sentence {flags : Flags} {ts : List Token} {e : Expr} (h : Sentence flags ts e)
    {ls : List Lexeme} (hls : ls.map Lexeme.token = ts) : run flags {} (items ls) = .ok e := by
  obtain ⟨bs, g, hderives, rfl⟩ := h
  obtain ⟨groups, last, -, htakes⟩ :=
    takes_derives hderives {} ls known_empty hls (by simp [EndsAt, NoQuantifier])
  have hrun : run flags {} (items (ls ++ [])) = run flags _ (items []) := run_takes htakes
  rw [List.append_nil] at hrun
  refine hrun.trans (run_done ?_)
  rw [← Level.close_expression hderives.begins]
  rfl

end Parser

end SchemaPattern
