import Mathlib.Data.List.Induction
import PlotStream.Location

/-!
Where a character of a text stands. Lines are opened by the character after a line feed, so the
end of a text is on the line of its last character even when that one is a line feed. The place
of an offset is computed here from the whole text; a reader arrives at the same numbers by
counting while it loads.
-/

namespace PlotStream

namespace Text

/-- One past the last line feed, or zero when there is none. -/
def lineStart (cs : List Char) : Nat :=
  cs.length - (cs.reverse.takeWhile (· ≠ '\n')).length

/-- The two ways an offset can be the start of the line that a text ends on. -/
def IsLineStart (cs : List Char) (start : Nat) : Prop :=
  (start = 0 ∧ '\n' ∉ cs) ∨
    ∃ earlier line, cs = earlier ++ '\n' :: line ∧ '\n' ∉ line ∧ start = earlier.length + 1

theorem lineStart_concat (cs : List Char) (c : Char) :
    lineStart (cs ++ [c]) = if c = '\n' then cs.length + 1 else lineStart cs := by
  by_cases hc : c = '\n'
  · simp [lineStart, hc]
  · simp only [lineStart, List.reverse_append, List.reverse_singleton, List.singleton_append,
      List.length_append, List.length_singleton, hc, if_false]
    rw [List.takeWhile_cons_of_pos (by simpa using hc), List.length_cons]
    omega

theorem isLineStart_lineStart (cs : List Char) : IsLineStart cs (lineStart cs) := by
  induction cs using List.reverseRecOn with
  | nil => exact Or.inl ⟨rfl, by simp⟩
  | append_singleton cs c ih =>
    rw [lineStart_concat]
    split
    next hc =>
      subst hc
      exact Or.inr ⟨cs, [], by simp⟩
    next hc =>
      rcases ih with ⟨hstart, hnone⟩ | ⟨earlier, line, hcs, hline, hstart⟩
      · exact Or.inl ⟨hstart, by simp [hnone, Ne.symm hc]⟩
      · refine Or.inr ⟨earlier, line ++ [c], by simp [hcs], ?_, hstart⟩
        simp [hline, Ne.symm hc]

end Text

/-- The place of the character at an offset, or of the end of the text. -/
def Location.ofOffset (text : List Char) (offset : Nat) : Location :=
  let before := text.take (min offset (text.length - 1))
  ⟨offset, 1 + before.count '\n', offset - Text.lineStart before + 1⟩

/-- Places are the same in two texts that agree up to a character which both of them have. -/
theorem Location.ofOffset_congr {text other : List Char} {offset : Nat}
    (htext : offset < text.length) (hother : offset < other.length)
    (hagree : text.take offset = other.take offset) :
    ofOffset text offset = ofOffset other offset := by
  have hmin : min offset (text.length - 1) = offset := by omega
  have hmin' : min offset (other.length - 1) = offset := by omega
  simp only [ofOffset, hmin, hmin', hagree]

/-- Where a text ends, unless with a line feed, is where it would go on. -/
theorem Location.ofOffset_end_congr (before : List Char) {c : Char} (hc : c ≠ '\n')
    (more : List Char) :
    ofOffset (before ++ [c]) (before ++ [c]).length =
      ofOffset (before ++ [c] ++ more) (before ++ [c]).length := by
  rcases more with _ | ⟨d, more⟩
  · rw [List.append_nil]
  have hend : min (before ++ [c]).length ((before ++ [c]).length - 1) = before.length := by simp
  have hon : min (before ++ [c]).length ((before ++ [c] ++ d :: more).length - 1) =
      (before ++ [c]).length := by
    simp only [List.length_append, List.length_cons]
    omega
  have hlines : (before ++ [c]).count '\n' = before.count '\n' := by
    simp [List.count_append, hc]
  have hstart : Text.lineStart (before ++ [c]) = Text.lineStart before := by
    rw [Text.lineStart_concat, if_neg hc]
  rw [ofOffset, ofOffset, hend, hon, List.take_left, List.take_left, hlines, hstart]

/-- The texts have the same characters up to and including the one at an offset, which both
have. -/
structure Text.SameThrough (offset : Nat) (text other : List Char) : Prop where
  left : offset < text.length
  right : offset < other.length
  agree : text.take (offset + 1) = other.take (offset + 1)

namespace Text.SameThrough

variable {offset : Nat} {text other : List Char}

theorem mono (h : SameThrough offset text other) {earlier : Nat} (hle : earlier ≤ offset) :
    SameThrough earlier text other where
  left := Nat.lt_of_le_of_lt hle h.left
  right := Nat.lt_of_le_of_lt hle h.right
  agree := by
    have hagree := congrArg (List.take (earlier + 1)) h.agree
    simpa only [List.take_take, Nat.min_eq_left (Nat.succ_le_succ hle)] using hagree

theorem take_eq (h : SameThrough offset text other) : text.take offset = other.take offset := by
  have hagree := congrArg (List.take offset) h.agree
  simpa only [List.take_take, Nat.min_eq_left (Nat.le_succ offset)] using hagree

theorem getElem?_eq (h : SameThrough offset text other) : text[offset]? = other[offset]? := by
  rw [← List.getElem?_take_of_lt (Nat.lt_succ_self offset), h.agree,
    List.getElem?_take_of_lt (Nat.lt_succ_self offset)]

theorem place_eq (h : SameThrough offset text other) :
    Location.ofOffset text offset = Location.ofOffset other offset :=
  Location.ofOffset_congr h.left h.right h.take_eq

theorem append (hoffset : offset < text.length) (more : List Char) :
    SameThrough offset text (text ++ more) where
  left := hoffset
  right := by
    rw [List.length_append]
    omega
  agree := (List.take_append_of_le_length hoffset).symm

/-- A text is the same through any of its characters as its own beginning with something else
behind it. -/
theorem of_take (hoffset : offset < text.length) (more : List Char) :
    SameThrough offset text (text.take (offset + 1) ++ more) where
  left := hoffset
  right := by
    simp only [List.length_append, List.length_take]
    omega
  agree := by
    have hlength : (text.take (offset + 1)).length = offset + 1 := by
      simp only [List.length_take]
      omega
    rw [List.take_left' hlength]

/-- Two texts with a common beginning are the same through the last character of it. -/
theorem of_append (common : List Char) (c : Char) (more more' : List Char) :
    SameThrough common.length (common ++ c :: more) (common ++ c :: more') where
  left := by simp
  right := by simp
  agree := by
    have hlength : (common ++ [c]).length = common.length + 1 := by simp
    rw [List.append_cons, List.append_cons common c more', List.take_left' hlength,
      List.take_left' hlength]

end Text.SameThrough

end PlotStream
