import SchemaPattern.Proofs.CharSet.Folding
import SchemaPattern.Proofs.Host.Reading

/-!
# Classes of host patterns

The characters that a class has, and the set that the host reads from its text.  Both are the same
for every class whose escapes stand for sets in normal form.
-/

namespace SchemaPattern

open Unicode

/-! ## The characters of a class -/

/-- With `ignoreCase`, characters and ranges have all variants of their own; escapes have not. -/
def ClassMember.Has (ignoreCase : Bool) (x : Char) : ClassMember → Prop
  | char c => if ignoreCase then CaseVariant x c else x = c
  | range r => if ignoreCase then ∃ c ∈ r, CaseVariant x c else x ∈ r
  | escape e => x ∈ e.chars

def CharGroup.Has (ignoreCase : Bool) (x : Char) (g : CharGroup) : Prop :=
  if g.negative then ¬ ∃ m ∈ g.members, m.Has ignoreCase x else ∃ m ∈ g.members, m.Has ignoreCase x

/-- What is subtracted is taken away from the group after its negation. -/
def CharClass.Has (ignoreCase : Bool) (x : Char) : CharClass → Prop
  | group g => g.Has ignoreCase x
  | difference g subtrahend => g.Has ignoreCase x ∧ ¬ subtrahend.Has ignoreCase x

namespace Host

open CharSet

/-! ## The sets in the text of a class -/

theorem normal_variants (ignoreCase : Bool) (r : CharRange) : (variants ignoreCase r).Normal := by
  unfold variants
  cases ignoreCase
  · exact normal_ofRanges _
  · exact normal_caseFolded _

theorem mem_variants {ignoreCase : Bool} {r : CharRange} {x : Char} :
    x ∈ variants ignoreCase r ↔ if ignoreCase then ∃ c ∈ r, CaseVariant x c else x ∈ r := by
  unfold variants
  cases ignoreCase
  · simp
  · simp [(normal_ofRanges [r]).mem_caseFolded]

theorem mem_charRange_single {x c : Char} : x ∈ CharRange.single c ↔ x = c := by
  rw [← mem_single, single, mem_ofRanges]
  simp

theorem mem_memberSet {ignoreCase : Bool} {m : ClassMember} {x : Char} :
    x ∈ memberSet ignoreCase m ↔ m.Has ignoreCase x := by
  cases m with
  | char c =>
      simp only [memberSet, mem_variants, ClassMember.Has, mem_charRange_single]
      simp
  | range r => exact mem_variants
  | escape e => rfl

def memberRanges (ignoreCase : Bool) (g : CharGroup) : List CharRange :=
  g.members.flatMap fun m => (memberSet ignoreCase m).ranges.toList

def bracketSet (ranges : List CharRange) (negative : Bool) : CharSet :=
  if negative then (ofRanges ranges).complement else ofRanges ranges

theorem normal_bracketSet (ranges : List CharRange) (negative : Bool) :
    (bracketSet ranges negative).Normal := by
  unfold bracketSet
  split
  · exact normal_complement (normal_ofRanges _)
  · exact normal_ofRanges _

def groupSet (ignoreCase : Bool) (g : CharGroup) : CharSet :=
  bracketSet (memberRanges ignoreCase g) g.negative

def classSet (ignoreCase : Bool) : CharClass → CharSet
  | .group g => groupSet ignoreCase g
  | .difference g subtrahend =>
      (groupSet ignoreCase g).inter (classSet ignoreCase subtrahend).complement

theorem normal_groupSet (ignoreCase : Bool) (g : CharGroup) : (groupSet ignoreCase g).Normal :=
  normal_bracketSet _ _

theorem normal_classSet (ignoreCase : Bool) (c : CharClass) :
    (classSet ignoreCase c).Normal := by
  cases c with
  | group g => exact normal_groupSet _ _
  | difference g subtrahend => exact normal_inter _ _

theorem mem_groupSet {ignoreCase : Bool} {g : CharGroup} {x : Char} :
    x ∈ groupSet ignoreCase g ↔ g.Has ignoreCase x := by
  have hunion : x ∈ ofRanges (memberRanges ignoreCase g) ↔
      ∃ m ∈ g.members, m.Has ignoreCase x := by
    simp only [mem_ofRanges, memberRanges, List.mem_flatMap]
    constructor
    · rintro ⟨r, ⟨m, hm, hr⟩, hx⟩
      exact ⟨m, hm, mem_memberSet.1 (mem_iff_toList.2 ⟨r, hr, hx⟩)⟩
    · rintro ⟨m, hm, hx⟩
      obtain ⟨r, hr, hxr⟩ := mem_iff_toList.1 (mem_memberSet.2 hx)
      exact ⟨r, ⟨m, hm, hr⟩, hxr⟩
  unfold groupSet bracketSet CharGroup.Has
  split
  · rw [mem_complement (normal_ofRanges _), hunion]
  · exact hunion

theorem mem_classSet {ignoreCase : Bool} {c : CharClass} {x : Char} :
    x ∈ classSet ignoreCase c ↔ c.Has ignoreCase x := by
  induction c with
  | group g => exact mem_groupSet
  | difference g subtrahend ih =>
      have hsubtrahend := normal_classSet ignoreCase subtrahend
      rw [classSet, mem_inter (normal_groupSet _ _) (normal_complement hsubtrahend),
        mem_complement hsubtrahend, mem_groupSet, ih]
      rfl

namespace Reader

/-! ## Steps in a class -/

/-- In a class, where the next character may be a new one, a bracket or an ampersand. -/
def Spot.Settled : Spot → Prop
  | .start | .plain | .char _ => True
  | _ => False

/-- After the last bracket of a class. -/
def closed (st : State) (outer : List OpenClass) (s : CharSet) : State :=
  match outer with
  | [] => st.add (.set s)
  | k :: outer => inClass st { k with ranges := s.ranges.toList ++ k.ranges } outer .plain

def OpenClass.push (k : OpenClass) (ranges : List CharRange) : OpenClass :=
  { k with ranges := ranges.reverse ++ k.ranges }

section

variable {st begun : State} {k : OpenClass} {outer : List OpenClass} {spot : Spot}

theorem settled_start : Spot.start.Settled := trivial

theorem settled_plain : Spot.plain.Settled := trivial

theorem flush_plain (k : OpenClass) : k.flush .plain = k := rfl

theorem Spot.Settled.plain (h : spot.Settled) : spot.Plain ∧ spot.low? = none := by
  cases spot <;> first | exact absurd h id | exact ⟨trivial, rfl⟩

theorem step_openBracket (st : State) (k : OpenClass) (outer : List OpenClass)
    (h : spot.Settled) : step (inClass st k outer spot) '[' =
    some (inClass st {} (k.flush spot :: outer) .start) := by
  cases spot <;> first | exact absurd h id | rfl

theorem step_closeBracket (k : OpenClass) (outer : List OpenClass) (h : spot.Settled)
    (hcase : st.scope.ignoreCase = false) :
    step (inClass st k outer spot) ']' =
      some (closed st outer ((k.flush spot).close false)) := by
  rw [← hcase]
  cases outer <;> cases spot <;> first | exact absurd h id | rfl

theorem reads_ampersands (k : OpenClass) (outer : List OpenClass) (h : spot.Settled)
    (hcase : st.scope.ignoreCase = false) :
    Reads (inClass st k outer spot) ['&', '&'] (inClass st
      { k.flush spot with left := some ((k.flush spot).operand false), ranges := [] }
      outer .plain) := by
  rw [← hcase]
  cases spot <;> first | exact absurd h id | rfl

/-! ## Ranges of a class -/

theorem reads_rangeText (st : State) (k : OpenClass) (outer : List OpenClass) {r : CharRange}
    (h : spot.Settled) (hr : r.first ≤ r.last) :
    ∃ k' spot', Reads (inClass st k outer spot) (rangeText r) (inClass st k' outer spot') ∧
      spot'.Settled ∧ k'.flush spot' = (k.flush spot).push [r] := by
  obtain ⟨hplain, hlow⟩ := h.plain
  have hfirst : Reads (inClass st k outer spot) (Host.classChar r.first)
      (inClass st (k.flush spot) outer (.char r.first)) :=
    reads_classChar hplain (by rw [hlow]; exact classUnit_none)
  unfold rangeText
  split
  · next hone =>
    refine ⟨_, _, hfirst, trivial, ?_⟩
    cases r
    simp only at hone
    subst hone
    rfl
  · have hlast : Reads (inClass st (k.flush spot) outer (.dash r.first)) (Host.classChar r.last)
        (inClass st ((k.flush spot).push [r]) outer .plain) :=
      reads_classChar trivial (classUnit_some hr)
    exact ⟨_, _, hfirst.append (.cons rfl hlast), trivial, rfl⟩

theorem reads_rangeTexts (st : State) (k : OpenClass) (outer : List OpenClass)
    {ranges : List CharRange} (h : spot.Settled) (hr : ∀ r ∈ ranges, r.first ≤ r.last) :
    ∃ k' spot', Reads (inClass st k outer spot) (ranges.flatMap rangeText)
        (inClass st k' outer spot') ∧
      spot'.Settled ∧ k'.flush spot' = (k.flush spot).push ranges := by
  induction ranges generalizing k spot with
  | nil => exact ⟨k, spot, .nil _, h, rfl⟩
  | cons r rest ih =>
      obtain ⟨k₁, spot₁, hread, hsettled, hflush⟩ :=
        reads_rangeText st k outer h (hr r List.mem_cons_self)
      obtain ⟨k₂, spot₂, hrest, hsettled', hflush'⟩ :=
        ih k₁ hsettled fun t ht => hr t (List.mem_cons_of_mem _ ht)
      refine ⟨k₂, spot₂, hread.append hrest, hsettled', ?_⟩
      rw [hflush', hflush]
      simp [OpenClass.push]

theorem ofRanges_reverse (ranges : List CharRange) :
    ofRanges ranges.reverse = ofRanges ranges :=
  (normal_ofRanges _).ext (normal_ofRanges _) fun c => by simp

/-! ## Brackets -/

/-- The first bracket of a class has been read, in a text or in another class. -/
def Begins (begun st : State) (outer : List OpenClass) : Prop :=
  step begun '[' = some (inClass st {} outer .start)

theorem reads_brackets {ranges : List CharRange} (hbegun : Begins begun st outer)
    (hcase : st.scope.ignoreCase = false) (hr : ∀ r ∈ ranges, r.first ≤ r.last) :
    Reads begun ('[' :: ranges.flatMap rangeText ++ [']'])
      (closed st outer (bracketSet ranges false)) := by
  obtain ⟨k, spot, hread, hsettled, hflush⟩ :=
    reads_rangeTexts st {} outer settled_start hr
  have hclose := step_closeBracket k outer hsettled hcase
  rw [hflush] at hclose
  have hset : (OpenClass.push (OpenClass.flush {} .start) ranges).close false =
      bracketSet ranges false := by
    simpa [OpenClass.push, OpenClass.flush, OpenClass.close, OpenClass.operand, bracketSet] using
      ofRanges_reverse ranges
  rw [hset] at hclose
  exact .cons hbegun (hread.append (.single hclose))

theorem reads_negativeBrackets {ranges : List CharRange} (hbegun : Begins begun st outer)
    (hcase : st.scope.ignoreCase = false) (hr : ∀ r ∈ ranges, r.first ≤ r.last) :
    Reads begun ("[^".toList ++ ranges.flatMap rangeText ++ [']'])
      (closed st outer (bracketSet ranges true)) := by
  obtain ⟨k, spot, hread, hsettled, hflush⟩ :=
    reads_rangeTexts st { negative := true } outer settled_plain hr
  have hclose := step_closeBracket k outer hsettled hcase
  rw [hflush] at hclose
  have hset : (OpenClass.push (OpenClass.flush { negative := true } .plain) ranges).close false =
      bracketSet ranges true := by
    simpa [OpenClass.push, OpenClass.flush, OpenClass.close, OpenClass.operand, bracketSet] using
      congrArg complement (ofRanges_reverse ranges)
  rw [hset] at hclose
  exact .cons hbegun (.cons rfl (hread.append (.single hclose)))

def fullRange : CharRange := ⟨'\x00', Char.ofNat 0x10FFFF⟩

theorem fullContent_eq : fullContent = [fullRange].flatMap rangeText := by
  rw [List.flatMap_singleton]
  rfl

theorem mem_bracketSet_full {c : Char} : c ∈ bracketSet [fullRange] false := by
  rw [bracketSet, if_neg Bool.false_ne_true, mem_ofRanges]
  exact ⟨fullRange, List.mem_singleton_self _, Nat.zero_le _, toNat_le_max c⟩

theorem mem_bracketSet_true {ranges : List CharRange} {c : Char} :
    c ∈ bracketSet ranges true ↔ c ∉ bracketSet ranges false :=
  mem_complement (normal_ofRanges _)

theorem rangeText_ne_nil (r : CharRange) : rangeText r ≠ [] := by
  unfold rangeText Host.classChar hexEscape
  split <;> split <;> simp

theorem bracketed_of_ne_nil {content : List Char} (h : content ≠ []) (negative : Bool) :
    bracketed content negative =
      if negative then "[^".toList ++ content ++ [']'] else '[' :: content ++ [']'] := by
  cases content with
  | nil => exact absurd rfl h
  | cons c rest => cases negative <;> rfl

/-- A class without ranges is written as the complement of the full one, and its complement as
the full one. -/
theorem reads_bracketed {ranges : List CharRange} (negative : Bool)
    (hbegun : Begins begun st outer) (hcase : st.scope.ignoreCase = false)
    (hr : ∀ r ∈ ranges, r.first ≤ r.last) :
    Reads begun (bracketed (ranges.flatMap rangeText) negative)
      (closed st outer (bracketSet ranges negative)) := by
  have hfull : ∀ r ∈ [fullRange], r.first ≤ r.last := by decide
  have hempty : ∀ c : Char, c ∉ bracketSet [] false := fun c => by simp [bracketSet]
  cases ranges with
  | nil =>
      cases negative with
      | false =>
          have hset : bracketSet [fullRange] true = bracketSet [] false :=
            (normal_bracketSet _ _).ext (normal_bracketSet _ _) fun c =>
              iff_of_false (fun hc => mem_bracketSet_true.1 hc mem_bracketSet_full) (hempty c)
          have hread := reads_negativeBrackets hbegun hcase hfull
          rwa [hset, ← fullContent_eq] at hread
      | true =>
          have hset : bracketSet [fullRange] false = bracketSet [] true :=
            (normal_bracketSet _ _).ext (normal_bracketSet _ _) fun c =>
              iff_of_true mem_bracketSet_full (mem_bracketSet_true.2 (hempty c))
          have hread := reads_brackets hbegun hcase hfull
          rwa [hset, ← fullContent_eq] at hread
  | cons r rest =>
      have hcontent : (r :: rest).flatMap rangeText ≠ [] := by
        simp [rangeText_ne_nil]
      rw [bracketed_of_ne_nil hcontent]
      cases negative with
      | false => exact reads_brackets hbegun hcase hr
      | true => exact reads_negativeBrackets hbegun hcase hr

/-! ## Classes -/

theorem ordered_of_mem_ranges {s : CharSet} (h : s.Normal) {r : CharRange}
    (hr : r ∈ s.ranges.toList) : r.first ≤ r.last :=
  h.ordered r hr

theorem normal_memberSet (ignoreCase : Bool) {m : ClassMember}
    (h : ∀ e, m.escape? = some e → e.chars.Normal) : (memberSet ignoreCase m).Normal := by
  cases m with
  | char c => exact normal_variants _ _
  | range r => exact normal_variants _ _
  | escape e => exact h e rfl

theorem reads_groupText (ignoreCase : Bool) {g : CharGroup} (hbegun : Begins begun st outer)
    (hcase : st.scope.ignoreCase = false) (h : ∀ e ∈ g.escapes, e.chars.Normal) :
    Reads begun (groupText ignoreCase g) (closed st outer (groupSet ignoreCase g)) := by
  have htext : (g.members.flatMap fun m => setContent (memberSet ignoreCase m)) =
      (memberRanges ignoreCase g).flatMap rangeText := by
    simp only [memberRanges, setContent, List.flatMap_assoc]
  rw [groupText, htext]
  apply reads_bracketed g.negative hbegun hcase
  intro r hr
  obtain ⟨m, hm, hrm⟩ := List.mem_flatMap.1 hr
  refine ordered_of_mem_ranges (normal_memberSet ignoreCase ?_) hrm
  exact fun e he => h e (List.mem_filterMap.2 ⟨m, hm, he⟩)

/-- A class in which nothing but the set of an inner class has been read. -/
def holding (negative : Bool) (left : Option CharSet) (s : CharSet) : OpenClass :=
  ⟨negative, left, s.ranges.toList ++ []⟩

theorem close_holding {s : CharSet} (h : s.Normal) :
    (holding true none s).close false = s.complement := by
  simp [holding, OpenClass.close, OpenClass.operand, h.ofRanges_toList]

theorem close_holding_left {left s : CharSet} (h : s.Normal) :
    (holding false (some left) s).close false = left.inter s := by
  simp [holding, OpenClass.close, OpenClass.operand, h.ofRanges_toList]

theorem operand_holding {s : CharSet} (h : s.Normal) :
    (holding false none s).operand false = s := by
  simp [holding, OpenClass.operand, h.ofRanges_toList]

theorem reads_classText (ignoreCase : Bool) {c : CharClass} (hbegun : Begins begun st outer)
    (hcase : st.scope.ignoreCase = false) (h : ∀ e ∈ c.escapes, e.chars.Normal) :
    Reads begun (classText ignoreCase c) (closed st outer (classSet ignoreCase c)) := by
  induction c generalizing begun outer with
  | group g => exact reads_groupText ignoreCase hbegun hcase h
  | difference g subtrahend ih =>
      have hleft : ∀ e ∈ g.escapes, e.chars.Normal := fun e he =>
        h e (List.mem_append_left _ he)
      have hright : ∀ e ∈ subtrahend.escapes, e.chars.Normal := fun e he =>
        h e (List.mem_append_right _ he)
      have hset := normal_classSet ignoreCase subtrahend
      -- The left group is a class within the brackets of the difference.  The subtrahend stands in
      -- brackets of its own, behind a caret.
      let left : OpenClass := { left := some (groupSet ignoreCase g) }
      have hgroup : Reads (inClass st {} outer .start) (groupText ignoreCase g)
          (inClass st (holding false none (groupSet ignoreCase g)) outer .plain) :=
        reads_groupText ignoreCase (step_openBracket st {} outer settled_start) hcase hleft
      have hand : Reads (inClass st (holding false none (groupSet ignoreCase g)) outer .plain)
          ['&', '&'] (inClass st left outer .plain) := by
        have hread := reads_ampersands (holding false none (groupSet ignoreCase g)) outer
          settled_plain hcase
        rwa [flush_plain, operand_holding (normal_groupSet _ _)] at hread
      have hcaret : Reads (inClass st left outer .plain) ['[', '^']
          (inClass st { negative := true } (left :: outer) .plain) :=
        .cons (step_openBracket st left outer settled_plain) (.single rfl)
      have hsubtrahend : Reads (inClass st { negative := true } (left :: outer) .plain)
          (classText ignoreCase subtrahend)
          (inClass st (holding true none (classSet ignoreCase subtrahend)) (left :: outer)
            .plain) :=
        ih (step_openBracket st _ _ settled_plain) hright
      have hinner : step (inClass st (holding true none (classSet ignoreCase subtrahend))
          (left :: outer) .plain) ']' =
            some (inClass st (holding false (some (groupSet ignoreCase g))
              (classSet ignoreCase subtrahend).complement) outer .plain) := by
        rw [step_closeBracket _ _ settled_plain hcase, flush_plain, close_holding hset]
        rfl
      have hwhole : step (inClass st (holding false (some (groupSet ignoreCase g))
          (classSet ignoreCase subtrahend).complement) outer .plain) ']' =
            some (closed st outer (classSet ignoreCase (.difference g subtrahend))) := by
        rw [step_closeBracket _ _ settled_plain hcase, flush_plain,
          close_holding_left (normal_complement hset)]
        rfl
      exact ((Reads.cons hbegun hgroup).append (hand.append hcaret)).append hsubtrahend
        |>.append (.cons hinner (.single hwhole))

end

end Reader

end Host

end SchemaPattern
