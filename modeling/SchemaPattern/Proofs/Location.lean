import Mathlib.Data.List.Induction
import SchemaPattern.Proofs.Lexer.Words

/-!
# Lines, columns and pieces of a pattern

The position behind a text has the line and the column that the newlines of the text give it.  The
place of a piece of a pattern begins at such a position, and is as long as the piece.  The position
behind a place is reckoned without a look at the pattern, so it is off where a newline stands there.
-/

namespace SchemaPattern

namespace Location

/-! ## Lines and columns -/

/-- The number of characters behind the last newline of a text. -/
def sinceNewline (text : List Char) : Nat := (text.reverse.takeWhile (· ≠ '\n')).length

/-- Line and column are what the characters before the place make of them. -/
structure Accurate (pattern : List Char) (l : Location) : Prop where
  line : l.line = (pattern.take l.index).count '\n'
  column : l.column = sinceNewline (pattern.take l.index)

theorem sinceNewline_concat (text : List Char) (c : Char) :
    sinceNewline (text ++ [c]) = if c = '\n' then 0 else sinceNewline text + 1 := by
  by_cases hc : c = '\n' <;> simp [sinceNewline, hc]

theorem sinceNewline_append {text : List Char} (h : '\n' ∉ text) (before : List Char) :
    sinceNewline (before ++ text) = sinceNewline before + text.length := by
  induction text using List.reverseRecOn with
  | nil => simp
  | append_singleton text c ih =>
      simp only [List.mem_append, List.mem_singleton, not_or] at h
      rw [← List.append_assoc, sinceNewline_concat, if_neg (Ne.symm h.2), ih h.1,
        List.length_append, List.length_singleton]
      omega

theorem past_concat (place : Location) (text : List Char) (c : Char) :
    place.past (text ++ [c]) = (place.past text).next c := by
  simp [past]

theorem past_origin (text : List Char) :
    origin.past text = ⟨text.length, text.count '\n', sinceNewline text, 0⟩ := by
  induction text using List.reverseRecOn with
  | nil => rfl
  | append_singleton text c ih =>
      rw [past_concat, ih, next, sinceNewline_concat]
      by_cases hc : c = '\n' <;> simp [hc, position]

/-! ## Pieces -/

/-- The place of the text that stands behind `before`. -/
def ofPiece (before text : List Char) : Location := (origin.past before).withLength text.length

section

variable {pattern before text behind : List Char}

@[simp] theorem index_ofPiece (before text : List Char) :
    (ofPiece before text).index = before.length := by
  simp [ofPiece, past_origin, withLength]

@[simp] theorem length_ofPiece (before text : List Char) :
    (ofPiece before text).length = text.length := rfl

theorem fragment_ofPiece (hne : text ≠ []) :
    (ofPiece before text).fragment (before ++ (text ++ behind)) = text := by
  have hpos := List.length_pos_of_ne_nil hne
  have hmax : max text.length 1 = text.length := by omega
  simp [fragment, hmax]

theorem accurate_ofPiece (before text behind : List Char) :
    (ofPiece before text).Accurate (before ++ behind) where
  line := by simp [ofPiece, past_origin, withLength]
  column := by simp [ofPiece, past_origin, withLength]

theorem index_after_ofPiece (hne : text ≠ []) :
    (ofPiece before text).after.index = before.length + text.length := by
  have hpos := List.length_pos_of_ne_nil hne
  have hmax : max text.length 1 = text.length := by omega
  simp [after, position, hmax]

/-- The position behind a piece is off just if the piece has a newline. -/
theorem accurate_after_iff (hne : text ≠ []) (behind : List Char) :
    (ofPiece before text).after.Accurate (before ++ (text ++ behind)) ↔ '\n' ∉ text := by
  have hindex := @index_after_ofPiece before text hne
  have htake : (before ++ (text ++ behind)).take (ofPiece before text).after.index =
      before ++ text := by
    rw [hindex, ← List.append_assoc, ← List.length_append, List.take_left]
  have hpos := List.length_pos_of_ne_nil hne
  have hmax : max text.length 1 = text.length := by omega
  constructor
  · rintro ⟨hline, -⟩
    rw [htake, List.count_append] at hline
    simp only [after, position, ofPiece, past_origin, withLength] at hline
    rw [← List.count_eq_zero]
    omega
  · intro hnewline
    constructor
    · rw [htake, List.count_append, List.count_eq_zero.2 hnewline]
      simp [after, position, ofPiece, past_origin, withLength]
    · rw [htake, sinceNewline_append hnewline]
      simp [after, position, ofPiece, past_origin, withLength, hmax]

/-- A place is that of some characters of the pattern. -/
inductive PieceOf (pattern : List Char) : Location → Prop
  | intro {before text behind : List Char} (h : pattern = before ++ (text ++ behind))
      (hne : text ≠ []) : PieceOf pattern (ofPiece before text)

theorem PieceOf.accurate {l : Location} (h : l.PieceOf pattern) : l.Accurate pattern := by
  obtain ⟨rfl, -⟩ := h
  exact accurate_ofPiece _ _ _

theorem PieceOf.pos {l : Location} (h : l.PieceOf pattern) : 0 < l.length := by
  obtain ⟨-, hne⟩ := h
  exact List.length_pos_of_ne_nil hne

theorem PieceOf.end_le {l : Location} (h : l.PieceOf pattern) :
    l.index + l.length ≤ pattern.length := by
  obtain ⟨rfl, -⟩ := h
  simp

/-- Of a place, the characters from another one on up to the end of a piece. -/
theorem PieceOf.of_end {first : Location} (h : first.PieceOf pattern) {length : Nat}
    (hpos : 0 < length) (hle : first.index + length ≤ pattern.length) :
    (first.withLength length).PieceOf pattern := by
  obtain ⟨rfl, hne⟩ := h
  rename_i before text behind
  simp only [index_ofPiece, List.length_append] at hle
  have hlength : ((text ++ behind).take length).length = length := by
    rw [List.length_take, List.length_append]
    omega
  have hpiece := @PieceOf.intro (before ++ (text ++ behind)) before ((text ++ behind).take length)
    ((text ++ behind).drop length) (by rw [List.take_append_drop])
    (List.ne_nil_of_length_pos (by omega))
  rwa [ofPiece, hlength] at hpiece

theorem PieceOf.through {first last : Location} (hfirst : first.PieceOf pattern)
    (hlast : last.PieceOf pattern) : (first.through last).PieceOf pattern := by
  refine hfirst.of_end (Nat.succ_pos _) ?_
  have := hfirst.end_le
  have := hfirst.pos
  have := hlast.end_le
  have := hlast.pos
  omega

theorem PieceOf.join {first last : Location} (hfirst : first.PieceOf pattern)
    (hlast : last.PieceOf pattern) (hle : first.index ≤ last.index) :
    (first.join last).PieceOf pattern := by
  have := hlast.end_le
  have := hlast.pos
  exact hfirst.of_end (by omega) (by omega)

end

end Location

end SchemaPattern
