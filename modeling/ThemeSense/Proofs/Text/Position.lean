import Mathlib.Data.List.DropRight
import Mathlib.Data.Prod.Lex
import ThemeSense.Proofs.Split
import ThemeSense.Text.Position

namespace ThemeSense

namespace Text

@[simp] theorem bytes_nil : bytes [] = 0 := rfl

theorem bytes_cons (c : Char) (cs : List Char) : bytes (c :: cs) = c.utf8Size + bytes cs := rfl

@[simp] theorem bytes_append (first second : List Char) : bytes (first ++ second) = bytes first + bytes second := by
  induction first with
  | nil => simp
  | cons c first ih => simp [bytes_cons, ih, Nat.add_assoc]

@[simp] theorem units_nil : units [] = 0 := rfl

@[simp] theorem units_cons (c : Char) (cs : List Char) : units (c :: cs) = charUnits c + units cs := rfl

@[simp] theorem units_append (first second : List Char) : units (first ++ second) = units first + units second := by
  induction first with
  | nil => simp
  | cons c first ih => simp [ih, Nat.add_assoc]

theorem charUnits_pos (c : Char) : 0 < charUnits c := by
  unfold charUnits
  split <;> omega

theorem units_pos {cs : List Char} (nonempty : cs ≠ []) : 0 < units cs := by
  obtain ⟨c, rest, rfl⟩ := List.exists_cons_of_ne_nil nonempty
  have positive := charUnits_pos c
  rw [units_cons]
  omega

theorem takeBytes_zero (cs : List Char) : takeBytes cs 0 = [] := by
  cases cs <;> rfl

theorem takeUnits_zero (cs : List Char) : takeUnits cs 0 = [] := by
  cases cs <;> rfl

/-- The bytes of a beginning cut off just that beginning. -/
theorem takeBytes_append (before rest : List Char) : takeBytes (before ++ rest) (bytes before) = before := by
  induction before with
  | nil => exact takeBytes_zero rest
  | cons c before ih =>
    have positive := c.utf8Size_pos
    have some : bytes (c :: before) ≠ 0 := by rw [bytes_cons]; omega
    rw [List.cons_append, takeBytes, if_neg some, bytes_cons, Nat.add_sub_cancel_left, ih]

theorem takeUnits_append (before rest : List Char) : takeUnits (before ++ rest) (units before) = before := by
  induction before with
  | nil => exact takeUnits_zero rest
  | cons c before ih =>
    have positive := charUnits_pos c
    have some : units (c :: before) ≠ 0 := by rw [units_cons]; omega
    rw [List.cons_append, takeUnits, if_neg some, units_cons, Nat.add_sub_cancel_left, ih]

theorem takeBytes?_append (before rest : List Char) : takeBytes? (before ++ rest) (bytes before) = some before := by
  simp [takeBytes?, takeBytes_append]

theorem byteOfColumn_append (before rest : List Char) :
    byteOfColumn (before ++ rest) (units before) = bytes before := by
  rw [byteOfColumn, takeUnits_append]

theorem takeBytes_prefix (cs : List Char) {i j : Nat} (le : i ≤ j) : takeBytes cs i <+: takeBytes cs j := by
  induction cs generalizing i j with
  | nil => exact List.nil_prefix
  | cons c cs ih =>
    by_cases zero : i = 0
    · rw [zero, takeBytes_zero]
      exact List.nil_prefix
    · have later : j ≠ 0 := by omega
      rw [takeBytes, if_neg zero, takeBytes, if_neg later, List.cons_prefix_cons]
      exact ⟨rfl, ih (by omega)⟩

/-- The text between two byte offsets. There is none if one of them is inside a character or behind the
end, or if they are in the wrong order. -/
def slice? (cs : List Char) (start stop : Nat) : Option (List Char) :=
  if start ≤ stop ∧ stop ≤ bytes cs then
    (takeBytes? cs stop).bind fun upTo => (takeBytes? cs start).map fun before => upTo.drop before.length
  else none

theorem slice?_append (before piece after : List Char) :
    slice? (before ++ piece ++ after) (bytes before) (bytes (before ++ piece)) = some piece := by
  have upTo := takeBytes?_append (before ++ piece) after
  have start := takeBytes?_append before (piece ++ after)
  rw [← List.append_assoc] at start
  have ordered : bytes before ≤ bytes (before ++ piece) ∧
      bytes (before ++ piece) ≤ bytes (before ++ piece ++ after) := by
    simp only [bytes_append]
    omega
  rw [slice?, if_pos ordered, upTo, start]
  simp

/-- What stands on the last line of a text. -/
def lastLine (cs : List Char) : List Char :=
  cs.rtakeWhile (· ≠ '\n')

/-- What stands on the first line of a text. -/
def firstLine (cs : List Char) : List Char :=
  cs.takeWhile (· ≠ '\n')

theorem lastLine_concat (cs : List Char) (c : Char) :
    lastLine (cs ++ [c]) = if c = '\n' then [] else lastLine cs ++ [c] := by
  by_cases feed : c = '\n' <;> simp [lastLine, feed]

/-- A piece without a line feed goes on with the last line. -/
theorem lastLine_append (before : List Char) {piece : List Char} (oneLine : '\n' ∉ piece) :
    lastLine (before ++ piece) = lastLine before ++ piece := by
  induction piece using List.reverseRecOn with
  | nil => simp
  | append_singleton piece c ih =>
    simp only [List.mem_append, List.mem_singleton, not_or] at oneLine
    rw [← List.append_assoc, lastLine_concat, if_neg (Ne.symm oneLine.2), ih oneLine.1, List.append_assoc]

theorem firstLine_append {piece : List Char} (oneLine : '\n' ∉ piece) (after : List Char) :
    firstLine (piece ++ after) = piece ++ firstLine after := by
  refine List.takeWhile_append_of_pos fun c member => ?_
  have other : c ≠ '\n' := by
    rintro rfl
    exact oneLine member
  simpa using other

theorem head_split (sep : Char) (cs : List Char) : (split sep cs)[0]? = some (cs.takeWhile (· ≠ sep)) := by
  induction cs with
  | nil => rfl
  | cons c cs ih =>
    by_cases same : c = sep
    · simp [split, same]
    · cases pieces : split sep cs with
      | nil => exact absurd pieces (split_ne_nil sep cs)
      | cons piece others =>
        rw [pieces] at ih
        have first : piece = cs.takeWhile (· ≠ sep) := by simpa using ih
        simp [split, same, pieces, first]

/-- The line on which a place is: what stands before the place on its line, and what follows there. -/
theorem line_around (before after : List Char) :
    (split '\n' (before ++ after))[before.count '\n']? = some (lastLine before ++ firstLine after) := by
  induction before using List.reverseRecOn generalizing after with
  | nil => exact head_split '\n' after
  | append_singleton before c ih =>
    rw [List.append_assoc, List.singleton_append, lastLine_concat]
    by_cases feed : c = '\n'
    · subst feed
      have index : (before ++ ['\n']).count '\n' = (split '\n' before).length := by
        rw [length_split, List.count_append]
        rfl
      rw [split_append, index, List.getElem?_append_right le_rfl, Nat.sub_self, head_split, if_pos rfl]
      rfl
    · have index : (before ++ [c]).count '\n' = before.count '\n' := by
        simp [List.count_append, feed]
      have oneLine : '\n' ∉ [c] := by simpa using Ne.symm feed
      have goesOn : firstLine (c :: after) = c :: firstLine after := firstLine_append oneLine after
      rw [index, ih, goesOn, if_neg feed, List.append_assoc, List.singleton_append]

/-- A line without its terminator still has every piece of it that holds no part of a terminator. -/
theorem lineAt_around (before after : List Char) {piece : List Char} (nonempty : piece ≠ [])
    (noFeed : '\n' ∉ piece) (noReturn : '\r' ∉ piece) :
    ∃ rest, lineAt (before ++ piece ++ after) (before.count '\n') = lastLine before ++ piece ++ rest := by
  have content := line_around before (piece ++ after)
  rw [← List.append_assoc, firstLine_append noFeed, ← List.append_assoc] at content
  simp only [lineAt, content]
  split
  · rename_i ends
    cases tail : firstLine after using List.reverseRecOn with
    | nil =>
      rw [tail, List.append_nil, List.getLast?_append_of_ne_nil _ nonempty] at ends
      exact absurd (List.mem_of_getLast? ends) noReturn
    | append_singleton rest c => exact ⟨rest, by rw [← List.append_assoc, List.dropLast_concat]⟩
  · exact ⟨_, rfl⟩

end Text

namespace Position

/-- Positions are in the order in which a document is read. -/
instance : PartialOrder Position :=
  PartialOrder.lift (fun position => toLex (position.line, position.character)) fun p q same => by
    cases p
    cases q
    simpa using same

theorem le_iff {p q : Position} : p ≤ q ↔ p.line < q.line ∨ p.line = q.line ∧ p.character ≤ q.character :=
  Prod.Lex.toLex_le_toLex

theorem le_next (position : Position) (c : Char) : position ≤ position.next c := by
  rw [le_iff, next]
  split
  · exact .inl (Nat.lt_succ_self _)
  · exact .inr ⟨rfl, Nat.le_add_right _ _⟩

theorem le_foldl_next (position : Position) (cs : List Char) : position ≤ cs.foldl next position := by
  induction cs generalizing position with
  | nil => exact le_rfl
  | cons c cs ih => exact (position.le_next c).trans (ih _)

theorem afterText_append (first second : List Char) :
    afterText (first ++ second) = second.foldl next (afterText first) :=
  List.foldl_append

/-- The line is the number of line feeds so far, and the column is how much stands on the last line. -/
theorem afterText_eq (cs : List Char) : afterText cs = ⟨cs.count '\n', Text.units (Text.lastLine cs)⟩ := by
  induction cs using List.reverseRecOn with
  | nil => rfl
  | append_singleton cs c ih =>
    rw [afterText_append, ih, Text.lastLine_concat]
    by_cases feed : c = '\n' <;> simp [next, feed, List.count_append]

/-- A piece without a line feed moves the cursor along its line. -/
theorem afterText_piece (before : List Char) {piece : List Char} (oneLine : '\n' ∉ piece) :
    afterText (before ++ piece) = ⟨(afterText before).line, (afterText before).character + Text.units piece⟩ := by
  have noFeed : piece.count '\n' = 0 := List.count_eq_zero.mpr oneLine
  simp only [afterText_eq, Text.lastLine_append before oneLine, List.count_append, noFeed, Text.units_append,
    Nat.add_zero]

theorem ofByte_append (before rest : List Char) : ofByte (before ++ rest) (Text.bytes before) = afterText before := by
  rw [ofByte, Text.takeBytes_append]

theorem ofByte_mono (text : List Char) {i j : Nat} (le : i ≤ j) : ofByte text i ≤ ofByte text j := by
  obtain ⟨more, joined⟩ := Text.takeBytes_prefix text le
  rw [ofByte, ofByte, ← joined, afterText_append]
  exact le_foldl_next _ more

end Position

/-- The line prefix up to a piece that holds no part of a line's terminator. -/
theorem Text.linePrefix_around (before after : List Char) {piece : List Char} (nonempty : piece ≠ [])
    (noFeed : '\n' ∉ piece) (noReturn : '\r' ∉ piece) :
    linePrefix (before ++ piece ++ after) (Position.afterText before) = lastLine before := by
  obtain ⟨rest, line⟩ := lineAt_around before after nonempty noFeed noReturn
  rw [linePrefix, Position.afterText_eq, line, List.append_assoc, takeUnits_append]

/-- Two ranges share no place of a document. -/
def Range.Disjoint (first second : Range) : Prop :=
  first.stop ≤ second.start ∨ second.stop ≤ first.start

end ThemeSense
