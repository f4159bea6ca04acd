import Mathlib.Order.Bounds.Basic
import ThemeSense.Proofs.Text.Offsets

namespace ThemeSense.Text

/-- The column is between the two code units of a character outside the basic plane. -/
def InsidePair (line : List Char) (column : Nat) : Prop :=
  ∃ before c after, line = before ++ c :: after ∧ 0x10000 ≤ c.toNat ∧ column = units before + 1

/-- The character boundaries of a line that are not before a column. -/
def reaching (line : List Char) (column : Nat) : Set Nat :=
  {offset | IsBoundary line offset ∧ ∃ reached, columnOfByte? line offset = some reached ∧ column ≤ reached}

theorem charUnits_eq_two_iff {c : Char} : charUnits c = 2 ↔ 0x10000 ≤ c.toNat := by
  unfold charUnits
  split <;> omega

theorem charUnits_le_two (c : Char) : charUnits c ≤ 2 := by
  unfold charUnits
  split <;> omega

theorem columnOfByte?_append (before after : List Char) :
    columnOfByte? (before ++ after) (bytes before) = some (units before) := by
  rw [columnOfByte?, takeBytes?_append, Option.map_some]

section Taking

variable {line before after : List Char} {c : Char} {column : Nat}

/-- Where the line is long enough, the characters that start before a column reach it. -/
theorem le_units_takeUnits (enough : column ≤ units line) : column ≤ units (takeUnits line column) := by
  induction line generalizing column with
  | nil => exact enough
  | cons c line ih =>
    rw [units_cons] at enough
    have later : column - charUnits c ≤ units (takeUnits line (column - charUnits c)) := ih (by omega)
    rw [takeUnits]
    split
    · omega
    · rw [units_cons]
      omega

/-- A beginning of the line that reaches the column has all the characters that start before it. -/
theorem takeUnits_prefix_of_le (isPrefix : before <+: line) (reached : column ≤ units before) :
    takeUnits line column <+: before := by
  obtain ⟨after, rfl⟩ := isPrefix
  have fewer := takeUnits_prefix (before ++ after) reached
  rwa [takeUnits_append] at fewer

/-- Only characters that start before the column are taken. -/
theorem units_lt_of_takeUnits (taken : takeUnits line column = before ++ c :: after) : units before < column := by
  induction line generalizing column before with
  | nil =>
    rw [takeUnits] at taken
    simp at taken
  | cons d line ih =>
    by_cases zero : column = 0
    · rw [zero, takeUnits_zero] at taken
      simp at taken
    · rw [takeUnits, if_neg zero] at taken
      cases before with
      | nil =>
        rw [units_nil]
        omega
      | cons e before =>
        obtain ⟨rfl, others⟩ := List.cons.inj taken
        have later := ih others
        rw [units_cons]
        omega

/-- A column inside a pair takes the character that the pair is. -/
theorem units_takeUnits_of_insidePair (inside : InsidePair line column) :
    units (takeUnits line column) = column + 1 := by
  obtain ⟨before, c, after, rfl, wide, rfl⟩ := inside
  have pair : units (before ++ [c]) = units before + 1 + 1 := by
    rw [units_append, units_cons, units_nil, charUnits_eq_two_iff.mpr wide]
  have reached : takeUnits (before ++ c :: after) (units before + 1) <+: before ++ [c] :=
    takeUnits_prefix_of_le ⟨after, by simp⟩ (by omega)
  have enough : units before + 1 ≤ units (before ++ c :: after) := by
    rw [units_append, units_cons, charUnits_eq_two_iff.mpr wide]
    omega
  have notBefore := le_units_takeUnits enough
  -- what is taken is behind `before`, and the only such beginning of `before ++ [c]` is all of it
  rcases List.prefix_concat_iff.mp reached with all | fewer
  · rw [all, pair]
  · obtain ⟨rest, joined⟩ := fewer
    have total := congrArg units joined
    rw [units_append] at total
    omega

theorem units_takeUnits_of_le (enough : column ≤ units line) (outside : ¬ InsidePair line column) :
    units (takeUnits line column) = column := by
  have reached := le_units_takeUnits enough
  cases taken : takeUnits line column using List.reverseRecOn with
  | nil =>
    rw [taken, units_nil] at reached
    rw [units_nil]
    omega
  | append_singleton before c =>
    have starts := units_lt_of_takeUnits taken
    have atMost := charUnits_le_two c
    rw [taken, units_append, units_cons, units_nil] at reached
    rw [units_append, units_cons, units_nil]
    by_contra other
    obtain ⟨after, joined⟩ := takeUnits_isPrefix line column
    rw [taken, List.append_assoc] at joined
    exact outside ⟨before, c, after, joined.symm, charUnits_eq_two_iff.mp (by omega), by omega⟩

end Taking

theorem isBoundary_byteOfColumn (line : List Char) (column : Nat) : IsBoundary line (byteOfColumn line column) := by
  obtain ⟨after, joined⟩ := takeUnits_isPrefix line column
  exact ⟨takeUnits line column, after, joined.symm, rfl⟩

theorem columnOfByte?_byteOfColumn (line : List Char) (column : Nat) :
    columnOfByte? line (byteOfColumn line column) = some (units (takeUnits line column)) := by
  obtain ⟨after, joined⟩ := takeUnits_isPrefix line column
  have found := columnOfByte?_append (takeUnits line column) after
  rwa [joined] at found

theorem byteOfColumn_mono (line : List Char) : Monotone (byteOfColumn line) := by
  intro i j le
  obtain ⟨more, joined⟩ := takeUnits_prefix line le
  rw [byteOfColumn, byteOfColumn, ← joined, bytes_append]
  exact Nat.le_add_right _ _

theorem byteOfColumn_isLeast {line : List Char} {column : Nat} (enough : column ≤ units line) :
    IsLeast (reaching line column) (byteOfColumn line column) := by
  refine ⟨⟨isBoundary_byteOfColumn line column, _, columnOfByte?_byteOfColumn line column,
    le_units_takeUnits enough⟩, ?_⟩
  rintro offset ⟨⟨before, after, rfl, rfl⟩, reached, found, notBefore⟩
  rw [columnOfByte?_append] at found
  cases found
  obtain ⟨more, joined⟩ := takeUnits_prefix_of_le (List.prefix_append before after) notBefore
  have total := congrArg bytes joined
  rw [bytes_append] at total
  rw [byteOfColumn]
  omega

theorem reaching_eq_empty {line : List Char} {column : Nat} (short : units line < column) :
    reaching line column = ∅ := by
  rw [Set.eq_empty_iff_forall_notMem]
  rintro offset ⟨⟨before, after, rfl, rfl⟩, reached, found, notBefore⟩
  rw [columnOfByte?_append] at found
  cases found
  rw [units_append] at short
  omega

/-- A column is read as the next character boundary, which is that of the column itself unless the column is inside a
pair or behind the end of the line. -/
theorem columns_rounded_up_and_read_back (line : List Char) :
    (∀ column, IsLeast (reaching line column) (byteOfColumn line column) ∨
        reaching line column = ∅ ∧ byteOfColumn line column = bytes line) ∧
      (∀ column, IsBoundary line (byteOfColumn line column) ∧
        slice? line 0 (byteOfColumn line column) = some (takeUnits line column)) ∧
      Monotone (byteOfColumn line) ∧
      (∀ offset, IsBoundary line offset →
        ∃ column, columnOfByte? line offset = some column ∧ byteOfColumn line column = offset) ∧
      ∀ column, ∃ reached, columnOfByte? line (byteOfColumn line column) = some reached ∧
        (reached = min column (units line) ∨ reached = column + 1) ∧
        (reached = column + 1 ↔ InsidePair line column) := by
  refine ⟨fun column => ?_, fun column => ⟨isBoundary_byteOfColumn line column, ?_⟩, byteOfColumn_mono line, ?_,
    fun column => ⟨_, columnOfByte?_byteOfColumn line column, ?_⟩⟩
  · rcases Nat.lt_or_ge (units line) column with short | enough
    · exact .inr ⟨reaching_eq_empty short, by rw [byteOfColumn, takeUnits_of_units_le short.le]⟩
    · exact .inl (byteOfColumn_isLeast enough)
  · obtain ⟨after, joined⟩ := takeUnits_isPrefix line column
    have piece := slice?_append [] (takeUnits line column) after
    rwa [List.nil_append, joined] at piece
  · rintro offset ⟨before, after, rfl, rfl⟩
    exact ⟨units before, columnOfByte?_append before after, byteOfColumn_append before after⟩
  · by_cases inside : InsidePair line column
    · have reached := units_takeUnits_of_insidePair inside
      exact ⟨.inr reached, fun _ => inside, fun _ => reached⟩
    · have reached : units (takeUnits line column) = min column (units line) := by
        rcases Nat.lt_or_ge (units line) column with short | enough
        · rw [takeUnits_of_units_le short.le, Nat.min_eq_right short.le]
        · rw [units_takeUnits_of_le enough inside, Nat.min_eq_left enough]
      refine ⟨.inl reached, fun next => ?_, fun pair => absurd pair inside⟩
      omega

example : byteOfColumn "é😀x".toList 2 = 6 ∧ columnOfByte? "é😀x".toList 6 = some 3 := by decide

end ThemeSense.Text
