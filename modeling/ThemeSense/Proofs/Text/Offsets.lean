import Mathlib.Order.Monotone.Defs
import ThemeSense.Proofs.Text.Position

namespace ThemeSense

namespace Text

/-- An offset at which a character starts, or the end of the text. -/
def IsBoundary (text : List Char) (offset : Nat) : Prop :=
  ∃ before after, text = before ++ after ∧ bytes before = offset

theorem isBoundary_append (before after : List Char) : IsBoundary (before ++ after) (bytes before) :=
  ⟨before, after, rfl, rfl⟩

theorem IsBoundary.bytes_takeBytes {text : List Char} {offset : Nat} (boundary : IsBoundary text offset) :
    bytes (takeBytes text offset) = offset := by
  obtain ⟨before, after, rfl, rfl⟩ := boundary
  rw [takeBytes_append]

/-- Just behind the last line feed before an offset, or the start of the text. -/
def lineStart (text : List Char) (offset : Nat) : Nat :=
  bytes ((takeBytes text offset).rdropWhile (· ≠ '\n'))

/-- The next line feed that is not before an offset, or the end of the text. -/
def lineStop (text : List Char) (offset : Nat) : Nat :=
  offset + bytes (firstLine (text.drop (takeBytes text offset).length))

/-- What stands between the start of its line and an offset. -/
theorem slice?_lineStart (before after : List Char) :
    slice? (before ++ after) (lineStart (before ++ after) (bytes before)) (bytes before) = some (lastLine before) := by
  have cut : before.rdropWhile (· ≠ '\n') ++ lastLine before = before := List.rdropWhile_append_rtakeWhile ..
  have piece := slice?_append (before.rdropWhile (· ≠ '\n')) (lastLine before) after
  rw [cut] at piece
  rw [lineStart, takeBytes_append]
  exact piece

theorem bytes_eq_zero {cs : List Char} : bytes cs = 0 ↔ cs = [] := by
  constructor
  · intro zero
    cases cs with
    | nil => rfl
    | cons c cs =>
      have positive := c.utf8Size_pos
      rw [bytes_cons] at zero
      omega
  · rintro rfl
    exact bytes_nil

/-- An offset is at the end of its line if nothing follows on the line. -/
theorem lineStop_eq_iff (before after : List Char) :
    lineStop (before ++ after) (bytes before) = bytes before ↔ firstLine after = [] := by
  have rest : bytes before + bytes (firstLine after) = bytes before ↔ bytes (firstLine after) = 0 := by omega
  rw [lineStop, takeBytes_append, List.drop_left, rest, bytes_eq_zero]

/-- A column behind the end of a line takes all of the line. -/
theorem takeUnits_of_units_le {cs : List Char} {column : Nat} (enough : units cs ≤ column) :
    takeUnits cs column = cs := by
  induction cs generalizing column with
  | nil => rfl
  | cons c cs ih =>
    have positive := charUnits_pos c
    rw [units_cons] at enough
    have some : column ≠ 0 := by omega
    rw [takeUnits, if_neg some, ih (by omega)]

theorem takeUnits_prefix (cs : List Char) {i j : Nat} (le : i ≤ j) : takeUnits cs i <+: takeUnits cs j := by
  induction cs generalizing i j with
  | nil => exact List.nil_prefix
  | cons c cs ih =>
    by_cases zero : i = 0
    · rw [zero, takeUnits_zero]
      exact List.nil_prefix
    · have later : j ≠ 0 := by omega
      rw [takeUnits, if_neg zero, takeUnits, if_neg later, List.cons_prefix_cons]
      exact ⟨rfl, ih (by omega)⟩

theorem takeUnits_isPrefix (line : List Char) (column : Nat) : takeUnits line column <+: line := by
  have whole : takeUnits line (column + units line) = line := takeUnits_of_units_le (Nat.le_add_left _ _)
  have more := takeUnits_prefix line (Nat.le_add_right column (units line))
  rwa [whole] at more

/-- The line prefix at any place of a text. Only behind a carriage return that ends the line does it lack
something of what stands before the place. -/
theorem linePrefix_afterText (before after : List Char) :
    linePrefix (before ++ after) (Position.afterText before) =
      if firstLine after = [] ∧ (lastLine before).getLast? = some '\r' then (lastLine before).dropLast
      else lastLine before := by
  have content := line_around before after
  rw [linePrefix, Position.afterText_eq]
  simp only [lineAt, content]
  -- The carriage return that is no part of the line is the last character before its end, so it stands before the
  -- place only if nothing follows there.
  by_cases ends : firstLine after = []
  · rw [ends, List.append_nil]
    by_cases returns : (lastLine before).getLast? = some '\r'
    · have shorter : units (lastLine before).dropLast ≤ units (lastLine before) := by
        obtain ⟨front, line⟩ := List.getLast?_eq_some_iff.mp returns
        rw [line, List.dropLast_concat, units_append]
        omega
      rw [if_pos returns, if_pos ⟨rfl, returns⟩, takeUnits_of_units_le shorter]
    · have kept : ¬(([] : List Char) = [] ∧ (lastLine before).getLast? = some '\r') := fun both => returns both.2
      rw [if_neg returns, if_neg kept, takeUnits_of_units_le le_rfl]
  · have kept : ¬(firstLine after = [] ∧ (lastLine before).getLast? = some '\r') := fun both => ends both.1
    rw [if_neg kept]
    split
    · rw [List.dropLast_append_of_ne_nil ends, takeUnits_append]
    · rw [takeUnits_append]

end Text

namespace Position

open Text

theorem lt_iff {p q : Position} : p < q ↔ p.line < q.line ∨ p.line = q.line ∧ p.character < q.character :=
  Prod.Lex.toLex_lt_toLex

theorem lt_next (position : Position) (c : Char) : position < position.next c := by
  have positive := charUnits_pos c
  rw [lt_iff, next]
  split
  · exact .inl (Nat.lt_succ_self _)
  · exact .inr ⟨rfl, Nat.lt_add_of_pos_right positive⟩

/-- Every character moves the cursor forward. -/
theorem lt_foldl_next (position : Position) {cs : List Char} (nonempty : cs ≠ []) :
    position < cs.foldl next position := by
  obtain ⟨c, cs, rfl⟩ := List.exists_cons_of_ne_nil nonempty
  exact (position.lt_next c).trans_le (le_foldl_next _ cs)

theorem ofByte?_of_isBoundary {text : List Char} {offset : Nat} (boundary : IsBoundary text offset) :
    ofByte? text offset = some (ofByte text offset) := by
  obtain ⟨before, after, rfl, rfl⟩ := boundary
  rw [ofByte?, takeBytes?_append, Option.map_some, ofByte_append]

theorem ofByte_strictMonoOn (text : List Char) : StrictMonoOn (ofByte text) {offset | IsBoundary text offset} := by
  intro i atI j atJ less
  obtain ⟨more, joined⟩ := takeBytes_prefix text less.le
  have nonempty : more ≠ [] := by
    rintro rfl
    rw [List.append_nil] at joined
    have same : i = j := by rw [← IsBoundary.bytes_takeBytes atI, joined, IsBoundary.bytes_takeBytes atJ]
    omega
  rw [ofByte, ofByte, ← joined, afterText_append]
  exact lt_foldl_next _ nonempty

/-- Offsets and positions are inverse to each other. The offsets that are not inside a character have
positions, in the same order, and the line up to the position of an offset is the text between the start of its
line and the offset, without the carriage return if that is the whole line and ends with one. -/
theorem offsets_ordered_and_read_back (text : List Char) :
    (∀ offset, IsBoundary text offset → ofByte? text offset = some (ofByte text offset)) ∧
      StrictMonoOn (ofByte text) {offset | IsBoundary text offset} ∧
      ∀ offset, IsBoundary text offset → ∃ line, slice? text (lineStart text offset) offset = some line ∧
        linePrefix text (ofByte text offset) =
          if lineStop text offset = offset ∧ line.getLast? = some '\r' then line.dropLast else line := by
  refine ⟨fun offset => ofByte?_of_isBoundary, ofByte_strictMonoOn text, ?_⟩
  rintro offset ⟨before, after, rfl, rfl⟩
  refine ⟨lastLine before, slice?_lineStart before after, ?_⟩
  rw [ofByte_append, linePrefix_afterText]
  simp only [lineStop_eq_iff]

/-- Of two carriage returns before a line feed only the second belongs to the end of the line, and a
character outside the basic plane counts as two columns. -/
theorem offsets_ordered_and_read_back_at_return :
    let text := "a\n😀\r\r\n".toList
    IsBoundary text 6 ∧ IsBoundary text 8 ∧ ofByte text 6 = ⟨1, 2⟩ ∧ ofByte text 8 = ⟨1, 4⟩ ∧
      ofByte text 6 < ofByte text 8 ∧ slice? text (lineStart text 8) 8 = some "😀\r\r".toList ∧
      linePrefix text (ofByte text 8) = "😀\r".toList := by
  intro text
  have atSix : IsBoundary text 6 := ⟨"a\n😀".toList, "\r\r\n".toList, by decide, by decide⟩
  have atEight : IsBoundary text 8 := ⟨"a\n😀\r\r".toList, "\n".toList, by decide, by decide⟩
  obtain ⟨_, increasing, readBack⟩ := offsets_ordered_and_read_back text
  obtain ⟨line, cut, line_eq⟩ := readBack 8 atEight
  have shown : slice? text (lineStart text 8) 8 = some "😀\r\r".toList := by decide
  have same : line = "😀\r\r".toList := Option.some.inj (cut.symm.trans shown)
  have whole : lineStop text 8 = 8 ∧ line.getLast? = some '\r' := by
    rw [same]
    decide
  rw [if_pos whole, same] at line_eq
  exact ⟨atSix, atEight, by decide, by decide, increasing atSix atEight (by decide), shown, line_eq⟩

end Position

end ThemeSense
