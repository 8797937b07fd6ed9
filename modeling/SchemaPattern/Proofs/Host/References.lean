import SchemaPattern.Proofs.Host.Alike

/-!
# Rules for references

By simple case folding a reference takes as many characters as its text has, whatever their case.
The engine takes as many bytes instead.  That respects case too where variants have the same width.
-/

namespace SchemaPattern

open Unicode

namespace Host

/-! ## Folding -/

/-- A reference that ignores case takes as many characters as its text has, if they are that text in
some case. -/
def ReferenceRule.Folds (rule : ReferenceRule) : Prop :=
  ∀ (cur : Cursor) (text : List Char), rule true cur text =
    if (cur.rest.take text.length).map fold = text.map fold then some (cur.advance text.length)
    else none

/-- The rule that compares by simple case folding, or without it character by character. -/
def foldingRule : ReferenceRule := fun ignoreCase cur text =>
  let piece := cur.rest.take text.length
  if (if ignoreCase then piece.map fold = text.map fold else piece = text) then
    some (cur.advance text.length)
  else none

theorem folds_foldingRule : foldingRule.Folds := fun _ _ => rfl

theorem map_fold_eq {text text' : List Char} (h : List.Forall₂ CaseVariant text text') :
    text.map fold = text'.map fold := by
  induction h with
  | nil => rfl
  | cons hvariant _ ih => rw [List.map_cons, List.map_cons, hvariant, ih]

theorem ReferenceRule.Folds.respects {rule : ReferenceRule} (hrule : rule.Folds) :
    rule.Respects CaseVariant := by
  intro cur cur' text text' hcur htext
  rw [hrule, hrule, htext.length_eq, map_fold_eq htext,
    map_fold_eq (List.forall₂_take text'.length hcur.rest)]
  split
  · exact .some (hcur.advance _)
  · exact .none

/-! ## Bytes -/

theorem utf8Length_cons (c : Char) (text : List Char) :
    utf8Length (c :: text) = c.utf8Size + utf8Length text := by
  have hfrom (bytes : Nat) (text : List Char) :
      text.foldl (fun bytes c => bytes + c.utf8Size) bytes = bytes + utf8Length text := by
    induction text generalizing bytes with
    | nil => rfl
    | cons c text ih =>
        have hcons : utf8Length (c :: text) =
            text.foldl (fun bytes c => bytes + c.utf8Size) (0 + c.utf8Size) := rfl
        rw [hcons, List.foldl_cons, ih, ih]
        omega
  rw [utf8Length, List.foldl_cons, hfrom]
  omega

/-- Variants of each other that have as many bytes. -/
def SameWidth (c d : Char) : Prop := CaseVariant c d ∧ c.utf8Size = d.utf8Size

section

variable {text text' : List Char} (h : List.Forall₂ SameWidth text text')

include h

theorem utf8Length_eq : utf8Length text = utf8Length text' := by
  induction h with
  | nil => rfl
  | cons hvariant _ ih => rw [utf8Length_cons, utf8Length_cons, hvariant.2, ih]

theorem all_single_eq : (text.all fun c => c.utf8Size == 1) = text'.all fun c => c.utf8Size == 1 := by
  induction h with
  | nil => rfl
  | cons hvariant _ ih => rw [List.all_cons, List.all_cons, hvariant.2, ih]

theorem piece_alike (bytes : Nat) :
    Option.Rel (List.Forall₂ SameWidth) (piece? bytes text) (piece? bytes text') := by
  induction h generalizing bytes with
  | nil =>
      cases bytes with
      | zero => exact .some .nil
      | succ bytes => exact .none
  | @cons c c' rest rest' hvariant _ ih =>
      cases bytes with
      | zero => exact .some .nil
      | succ bytes =>
          simp only [piece?, hvariant.2]
          split
          · have hpiece := ih (bytes + 1 - c'.utf8Size)
            generalize piece? (bytes + 1 - c'.utf8Size) rest = piece at hpiece
            generalize piece? (bytes + 1 - c'.utf8Size) rest' = piece' at hpiece
            cases hpiece with
            | none => exact .none
            | some hpiece => exact .some (.cons hvariant hpiece)
          · exact .none

end

theorem standsIn_self (text : List Char) : standsIn text text = true := by
  cases text with
  | nil => rfl
  | cons c text => simp [standsIn]

/-- The text itself is the text in some case. -/
theorem answers_true (text piece : List Char) :
    answers true text piece =
      if piece.all fun c => c.utf8Size == 1 then piece.map fold == text.map fold
      else standsIn (text.map fold) (piece.map fold) := by
  unfold answers
  by_cases heq : piece = text
  · subst heq
    simp [standsIn_self]
  · simp [heq]

theorem answers_alike {text text' piece piece' : List Char} (htext : List.Forall₂ SameWidth text text')
    (hpiece : List.Forall₂ SameWidth piece piece') :
    answers true text piece = answers true text' piece' := by
  have hfold {text text' : List Char} (h : List.Forall₂ SameWidth text text') :
      text.map fold = text'.map fold :=
    map_fold_eq (h.imp fun _ _ hvariant => hvariant.1)
  rw [answers_true, answers_true, hfold htext, hfold hpiece, all_single_eq hpiece]

theorem respects_skipReference : ReferenceRule.Respects SameWidth Cursor.skipReference := by
  intro cur cur' text text' hcur htext
  have hpiece := piece_alike hcur.rest (utf8Length text)
  unfold Cursor.skipReference
  rw [← utf8Length_eq htext]
  generalize piece? (utf8Length text) cur.rest = piece at hpiece
  generalize piece? (utf8Length text) cur'.rest = piece' at hpiece
  cases hpiece with
  | none => exact .none
  | some hpiece =>
      simp only [answers_alike htext hpiece, hpiece.length_eq]
      split
      · exact .some (hcur.advance _)
      · exact .none

/-- On characters of one byte the engine's rule is that of simple case folding. -/
theorem skipReference_eq_foldingRule {cur : Cursor} {text : List Char}
    (hrest : ∀ c ∈ cur.rest, c.utf8Size = 1) (htext : ∀ c ∈ text, c.utf8Size = 1) :
    cur.skipReference true text = foldingRule true cur text := by
  have hlength {text : List Char} (h : ∀ c ∈ text, c.utf8Size = 1) :
      utf8Length text = text.length := by
    induction text with
    | nil => rfl
    | cons c text ih =>
        obtain ⟨hc, htext⟩ := List.forall_mem_cons.1 h
        rw [utf8Length_cons, hc, ih htext, List.length_cons]
        omega
  have hpiece {text : List Char} (h : ∀ c ∈ text, c.utf8Size = 1) (n : Nat) :
      piece? n text = if n ≤ text.length then some (text.take n) else none := by
    induction text generalizing n with
    | nil => cases n <;> rfl
    | cons c text ih =>
        obtain ⟨hc, htext⟩ := List.forall_mem_cons.1 h
        cases n with
        | zero => rfl
        | succ n =>
            simp only [piece?, hc, ih htext, Nat.add_sub_cancel, List.length_cons, List.take_succ_cons]
            split_ifs <;> first | rfl | omega
  rw [folds_foldingRule]
  unfold Cursor.skipReference
  rw [hlength htext, hpiece hrest]
  by_cases hlong : text.length ≤ cur.rest.length
  · have hsingle : ((cur.rest.take text.length).all fun c => c.utf8Size == 1) = true := by
      simpa using fun c hc => hrest c (List.mem_of_mem_take hc)
    have htaken : (cur.rest.take text.length).length = text.length := by simpa using hlong
    rw [if_pos hlong]
    simp only [answers_true, hsingle, if_true, htaken, beq_iff_eq]
  · have hshort : (cur.rest.take text.length).map fold ≠ text.map fold := fun hsame => by
      have htaken := congrArg List.length hsame
      rw [List.length_map, List.length_map, List.length_take] at htaken
      omega
    rw [if_neg hlong, if_neg hshort]

end Host

end SchemaPattern
