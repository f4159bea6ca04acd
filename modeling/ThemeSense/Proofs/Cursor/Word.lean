import ThemeSense.Proofs.Text.Offsets
import ThemeSense.Proofs.Text.Runs
import ThemeSense.Server.Session

namespace ThemeSense

open Text

/-- Before an offset there is a character that ends words, or the start of the line. -/
def EndsBefore (line : List Char) (offset : Nat) : Prop :=
  ∀ c ∈ (takeBytes line offset).getLast?, isWordBoundary c = true

/-- Behind an offset there is a character that ends words, or the end of the line. -/
def EndsBehind (line : List Char) (offset : Nat) : Prop :=
  ∀ c ∈ (line.drop (takeBytes line offset).length).head?, isWordBoundary c = true

/-- A span of a line that holds a word and all of it. -/
structure WordSpan.IsMaximal (span : WordSpan) (line : List Char) : Prop where
  nonempty : span.start < span.stop
  start : IsBoundary line span.start
  stop : IsBoundary line span.stop
  word : slice? line span.start span.stop = some span.word
  solid : ∀ c ∈ span.word, isWordBoundary c = false
  before : EndsBefore line span.start
  behind : EndsBehind line span.stop

/-- What stands left and right of a word does not go on with it. -/
structure Bounded (left word right : List Char) : Prop where
  solid : ∀ c ∈ word, isWordBoundary c = false
  left : ∀ c ∈ left.getLast?, isWordBoundary c = true
  right : ∀ c ∈ right.head?, isWordBoundary c = true

namespace Bounded

variable {left word right head tail : List Char}

theorem takeWhile_tail (bounded : Bounded left (head ++ tail) right) :
    (tail ++ right).takeWhile (!isWordBoundary ·) = tail := by
  have ends : Ends (!isWordBoundary ·) right := by simpa [Ends] using bounded.right
  refine ends.takeWhile fun c member => ?_
  simp [bounded.solid c (List.mem_append_right head member)]

theorem takeWhile_head (bounded : Bounded left (head ++ tail) right) :
    ((left ++ head).reverse.takeWhile (!isWordBoundary ·)).reverse = head := by
  have ends : Ends (!isWordBoundary ·) left.reverse := by simpa [Ends] using bounded.left
  have run : (head.reverse ++ left.reverse).takeWhile (!isWordBoundary ·) = head.reverse := by
    refine ends.takeWhile fun c member => ?_
    simp [bounded.solid c (List.mem_append_left tail (List.mem_reverse.mp member))]
  rw [List.reverse_append, run, List.reverse_reverse]

/-- The word is found from any place in it. -/
theorem wordAt? (bounded : Bounded left (head ++ tail) right) {column : Nat}
    (cut : takeUnits (left ++ (head ++ tail) ++ right) column = left ++ head) :
    wordAt? (left ++ (head ++ tail) ++ right) column =
      if head ++ tail = [] then none else some ⟨bytes left, bytes (left ++ (head ++ tail)), head ++ tail⟩ := by
  have regrouped : left ++ (head ++ tail) ++ right = (left ++ head) ++ (tail ++ right) := by simp
  have rest : (left ++ (head ++ tail) ++ right).drop (left ++ head).length = tail ++ right := by
    rw [regrouped, List.drop_left]
  have start : bytes (left ++ head) - bytes head = bytes left := by
    rw [bytes_append]
    omega
  have stop : bytes (left ++ head) + bytes tail = bytes (left ++ (head ++ tail)) := by
    simp only [bytes_append]
    omega
  simp only [ThemeSense.wordAt?, cut, rest, bounded.takeWhile_head, bounded.takeWhile_tail, start, stop]
  simp

theorem isMaximal (bounded : Bounded left word right) (nonempty : word ≠ []) :
    WordSpan.IsMaximal ⟨bytes left, bytes (left ++ word), word⟩ (left ++ word ++ right) where
  nonempty := by
    have positive : bytes word ≠ 0 := fun zero => nonempty (bytes_eq_zero.mp zero)
    simp only [bytes_append]
    omega
  start := by
    rw [List.append_assoc]
    exact isBoundary_append left (word ++ right)
  stop := isBoundary_append (left ++ word) right
  word := slice?_append left word right
  solid := bounded.solid
  before := by
    rw [EndsBefore, List.append_assoc, takeBytes_append]
    exact bounded.left
  behind := by
    rw [EndsBehind, takeBytes_append, List.drop_left]
    exact bounded.right

/-- Every column from the start of a word to its end, inside a character too, leads to a place in the word. -/
theorem cut_between (left word right : List Char) {column : Nat} (lower : units left ≤ column)
    (upper : column ≤ units (left ++ word)) :
    ∃ head tail, word = head ++ tail ∧ takeUnits (left ++ word ++ right) column = left ++ head := by
  have below := takeUnits_prefix (left ++ word ++ right) lower
  have above := takeUnits_prefix (left ++ word ++ right) upper
  rw [takeUnits_append] at above
  rw [List.append_assoc, takeUnits_append, ← List.append_assoc] at below
  obtain ⟨head, atHead⟩ := below
  obtain ⟨tail, atTail⟩ := above
  rw [← atHead, List.append_assoc] at atTail
  exact ⟨head, tail, (List.append_cancel_left atTail).symm, atHead.symm⟩

theorem wordAt?_of_column (bounded : Bounded left word right) (nonempty : word ≠ []) {column : Nat}
    (lower : units left ≤ column) (upper : column ≤ units (left ++ word)) :
    ThemeSense.wordAt? (left ++ word ++ right) column = some ⟨bytes left, bytes (left ++ word), word⟩ := by
  obtain ⟨head, tail, rfl, cut⟩ := cut_between left word right lower upper
  rw [bounded.wordAt? cut, if_neg nonempty]

end Bounded

/-- A column cuts the line inside a word, at one end of it, or where there is no word on either side. -/
theorem exists_bounded (line : List Char) (column : Nat) :
    ∃ left head tail right, line = left ++ (head ++ tail) ++ right ∧ takeUnits line column = left ++ head ∧
      Bounded left (head ++ tail) right := by
  obtain ⟨after, joined⟩ := takeUnits_isPrefix line column
  generalize takeUnits line column = before at joined
  -- From the cut the word goes on to both sides until a character ends it.
  have cutBefore : before.rdropWhile (!isWordBoundary ·) ++ before.rtakeWhile (!isWordBoundary ·) = before :=
    List.rdropWhile_append_rtakeWhile ..
  have cutAfter : after.takeWhile (!isWordBoundary ·) ++ after.dropWhile (!isWordBoundary ·) = after :=
    List.takeWhile_append_dropWhile
  refine ⟨_, _, after.takeWhile (!isWordBoundary ·), after.dropWhile (!isWordBoundary ·), ?_,
    cutBefore.symm, ?_, ?_, ?_⟩
  · rw [List.append_assoc, List.append_assoc, cutAfter, ← List.append_assoc, cutBefore, joined]
  · intro c member
    rcases List.mem_append.mp member with inHead | inTail
    · simpa using List.mem_rtakeWhile_imp inHead
    · simpa using List.mem_takeWhile_imp inTail
  · intro c last
    have stopped : Ends (!isWordBoundary ·) (before.reverse.dropWhile (!isWordBoundary ·)) := ends_dropWhile _
    rw [List.rdropWhile, List.getLast?_reverse] at last
    simpa using stopped c last
  · intro c first
    have stopped : Ends (!isWordBoundary ·) (after.dropWhile (!isWordBoundary ·)) := ends_dropWhile _
    simpa using stopped c first

/-- What is found at a column is the word around the place where the column cuts the line. -/
theorem bounded_of_wordAt? {line : List Char} {column : Nat} {span : WordSpan}
    (found : wordAt? line column = some span) :
    ∃ left head tail right, line = left ++ (head ++ tail) ++ right ∧ takeUnits line column = left ++ head ∧
      Bounded left (head ++ tail) right ∧ head ++ tail ≠ [] ∧
      span = ⟨bytes left, bytes (left ++ (head ++ tail)), head ++ tail⟩ := by
  obtain ⟨left, head, tail, right, rfl, cut, bounded⟩ := exists_bounded line column
  rw [bounded.wordAt? cut] at found
  split at found
  · cases found
  · rename_i nonempty
    exact ⟨left, head, tail, right, rfl, cut, bounded, nonempty, (Option.some.inj found).symm⟩

theorem wordAt?_eq_none_iff (line : List Char) (column : Nat) : wordAt? line column = none ↔
    EndsBefore line (byteOfColumn line column) ∧ EndsBehind line (byteOfColumn line column) := by
  obtain ⟨left, head, tail, right, rfl, cut, bounded⟩ := exists_bounded line column
  have regrouped : left ++ (head ++ tail) ++ right = (left ++ head) ++ (tail ++ right) := by simp
  have cursor : takeBytes (left ++ (head ++ tail) ++ right) (bytes (left ++ head)) = left ++ head := by
    rw [regrouped, takeBytes_append]
  have rest : (left ++ (head ++ tail) ++ right).drop (left ++ head).length = tail ++ right := by
    rw [regrouped, List.drop_left]
  have absent : ThemeSense.wordAt? (left ++ (head ++ tail) ++ right) column = none ↔ head ++ tail = [] := by
    rw [bounded.wordAt? cut]
    simp
  rw [absent, byteOfColumn, cut, EndsBefore, EndsBehind, cursor, rest, List.append_eq_nil_iff]
  constructor
  · rintro ⟨rfl, rfl⟩
    rw [List.append_nil, List.nil_append]
    exact ⟨bounded.left, bounded.right⟩
  · rintro ⟨before, behind⟩
    constructor
    · cases last : head.getLast? with
      | none => exact List.getLast?_eq_none_iff.mp last
      | some c =>
        have ends := before c (by rw [List.getLast?_append, last]; rfl)
        have solid := bounded.solid c (List.mem_append_left tail (List.mem_of_getLast? last))
        rw [ends] at solid
        cases solid
    · cases tail with
      | nil => rfl
      | cons c tail =>
        have ends := behind c rfl
        have solid := bounded.solid c (by simp)
        rw [ends] at solid
        cases solid

theorem WordSpan.range_eq (text : List Char) (line : Nat) {left word right : List Char}
    (content : lineAt text line = left ++ word ++ right) :
    WordSpan.range text line ⟨bytes left, bytes (left ++ word), word⟩ =
      ⟨⟨line, units left⟩, ⟨line, units (left ++ word)⟩⟩ := by
  have start : takeBytes (left ++ word ++ right) (bytes left) = left := by
    rw [List.append_assoc, takeBytes_append]
  simp only [WordSpan.range, content, start, takeBytes_append]

/-- The range of a word holds the places of its line from which the word is found. -/
theorem wordAt?_of_range {text : List Char} {position other : Position} {span : WordSpan}
    (found : wordAt? (lineAt text position.line) position.character = some span)
    (lower : (span.range text position.line).start ≤ other) (upper : other ≤ (span.range text position.line).stop) :
    other.line = position.line ∧ wordAt? (lineAt text position.line) other.character = some span := by
  obtain ⟨left, head, tail, right, content, _, bounded, nonempty, rfl⟩ := bounded_of_wordAt? found
  rw [WordSpan.range_eq text position.line content, Position.le_iff] at lower upper
  simp only at lower upper
  have same : other.line = position.line := by omega
  refine ⟨same, ?_⟩
  rw [content]
  exact bounded.wordAt?_of_column nonempty (by omega) (by omega)

/-- A hover comes with a range in which every place has the same hover. -/
theorem Session.hover_of_range {session after : Session} {uri : Uri} {position other : Position} {answer : HoverAnswer}
    (answered : session.hover uri position = (some answer, after)) (lower : answer.range.start ≤ other)
    (upper : other ≤ answer.range.stop) : session.hover uri other = (some answer, after) := by
  cases held : session.document? uri with
  | none => simp [hover, held] at answered
  | some text =>
    cases found : wordAt? (lineAt text position.line) position.character with
    | none => simp [hover, held, Theme.hoverAt, found] at answered
    | some span =>
      have range : answer.range = span.range text position.line := by
        simp only [hover, held, Theme.hoverAt, found, Prod.mk.injEq, Option.map_map, Option.map_eq_some_iff] at answered
        obtain ⟨⟨_, _, shown⟩, _⟩ := answered
        rw [← shown]
        rfl
      rw [range] at lower upper
      obtain ⟨sameLine, sameWord⟩ := wordAt?_of_range found lower upper
      rw [← answered]
      simp only [hover, held, Theme.hoverAt, sameLine, sameWord, found]

/-- The word at a column is a word of the line and all of it, and it does not depend on where in it the column
is. There is none only where no word is on either side. -/
theorem word_steady_within_span (line : List Char) (column : Nat) :
    (∀ span, wordAt? line column = some span →
      span.IsMaximal line ∧ span.start ≤ byteOfColumn line column ∧ byteOfColumn line column ≤ span.stop ∧
        ∃ first last, columnOfByte? line span.start = some first ∧ columnOfByte? line span.stop = some last ∧
          ∀ other, first ≤ other → other ≤ last → wordAt? line other = some span) ∧
    (wordAt? line column = none ↔
      EndsBefore line (byteOfColumn line column) ∧ EndsBehind line (byteOfColumn line column)) ∧
    ∀ (session after : Session) (uri : Uri) (position : Position) (answer : HoverAnswer),
      session.hover uri position = (some answer, after) →
      ∀ other, answer.range.start ≤ other → other ≤ answer.range.stop →
        session.hover uri other = (some answer, after) := by
  refine ⟨fun span found => ?_, wordAt?_eq_none_iff line column, ?_⟩
  · obtain ⟨left, head, tail, right, rfl, cut, bounded, nonempty, rfl⟩ := bounded_of_wordAt? found
    have cursor : byteOfColumn (left ++ (head ++ tail) ++ right) column = bytes (left ++ head) := by
      rw [byteOfColumn, cut]
    have start : takeBytes? (left ++ (head ++ tail) ++ right) (bytes left) = some left := by
      rw [List.append_assoc, takeBytes?_append]
    refine ⟨bounded.isMaximal nonempty, ?_, ?_, units left, units (left ++ (head ++ tail)), ?_, ?_, ?_⟩
    · simp only [cursor, bytes_append]
      omega
    · simp only [cursor, bytes_append]
      omega
    · simp only [columnOfByte?, start, Option.map_some]
    · simp only [columnOfByte?, takeBytes?_append, Option.map_some]
    · intro other lower upper
      exact bounded.wordAt?_of_column nonempty lower upper
  · intro session after uri position answer answered other lower upper
    exact session.hover_of_range answered lower upper

/-- A column inside a character outside the basic plane leads to the word with that character, as does the
column behind the word. -/
theorem word_steady_within_span_inside_pair :
    let line := "x 😀y;".toList
    let uri : Uri := ⟨"file".toList, none, some ["a.css".toList], []⟩
    let theme := { Theme.empty with breakpoints := [("😀y", "480px")] }
    let session := { Session.start with documents := [(uri, line)], theme := theme }
    wordAt? line 3 = some ⟨2, 7, "😀y".toList⟩ ∧ wordAt? line 5 = some ⟨2, 7, "😀y".toList⟩ ∧
      (session.hover uri ⟨0, 3⟩).1.map HoverAnswer.range = some ⟨⟨0, 2⟩, ⟨0, 5⟩⟩ ∧
      session.hover uri ⟨0, 5⟩ = session.hover uri ⟨0, 3⟩ := by
  intro line uri theme session
  have found : wordAt? line 3 = some ⟨2, 7, "😀y".toList⟩ := by decide +kernel
  have range : (session.hover uri ⟨0, 3⟩).1.map HoverAnswer.range = some ⟨⟨0, 2⟩, ⟨0, 5⟩⟩ := by decide +kernel
  obtain ⟨atWord, _, hovers⟩ := word_steady_within_span line 3
  obtain ⟨_, _, _, first, last, isFirst, isLast, steady⟩ := atWord _ found
  have bounds : first ≤ 5 ∧ 5 ≤ last := by
    cases (by decide +kernel : columnOfByte? line 2 = some 2).symm.trans isFirst
    cases (by decide +kernel : columnOfByte? line 7 = some 5).symm.trans isLast
    decide
  obtain ⟨answer, answered, shown⟩ := Option.map_eq_some_iff.mp range
  have whole : session.hover uri ⟨0, 3⟩ = (some answer, (session.hover uri ⟨0, 3⟩).2) := by
    rw [← answered, Prod.mk.eta]
  have again := hovers session _ uri ⟨0, 3⟩ answer whole ⟨0, 5⟩ (by rw [shown, Position.le_iff]; decide)
    (by rw [shown, Position.le_iff]; decide)
  exact ⟨found, steady 5 bounds.1 bounds.2, range, again.trans whole.symm⟩

end ThemeSense
