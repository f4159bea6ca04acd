import Mathlib.Data.List.Pairwise
import ThemeSense.Proofs.Mention

namespace ThemeSense.Mention

open Text

variable {text : List Char}

/-- Where a mention stands: what comes before it and what follows. Its name has no blank. -/
structure Place (text : List Char) (mention : Mention) (before after : List Char) : Prop where
  split : text = before ++ mention.name ++ after
  start : mention.start = bytes before
  nonempty : mention.name ≠ []
  solid : ∀ c ∈ mention.name, isBlank c = false

theorem place_of_mem {mention : Mention} (member : mention ∈ all text) :
    ∃ before after, Place text mention before after := by
  rcases mem_all.mp member with ⟨before, rest, use, rfl, found, rfl⟩ | ⟨before, rest, literal, rfl, found, rfl⟩
  · obtain ⟨formed, after, same, _⟩ := ColorUse.wellFormed_of_ofStart? found
    refine ⟨before ++ use.lead, after, ?_, rfl, formed.name.1, ?_⟩
    · simp [same]
    · exact fun c inName => ColorUse.isBlank_of_isNameChar (formed.name.2 c inName)
  · obtain ⟨digits, after, rfl, rfl, hex⟩ := digits_of_hexLiteral? found
    refine ⟨before, after, by simp, rfl, by simp, ?_⟩
    intro c inLiteral
    rcases List.mem_cons.mp inLiteral with rfl | digit
    · rfl
    · exact isBlank_of_isAlphanum (isAlphanum_of_hex (hex c digit))

namespace Place

variable {mention : Mention} {before after : List Char}

theorem not_mem_of_isBlank (place : Place text mention before after) {c : Char} (blank : isBlank c = true) :
    c ∉ mention.name := by
  intro member
  rw [place.solid c member] at blank
  cases blank

theorem stop (place : Place text mention before after) : mention.stop = bytes (before ++ mention.name) := by
  rw [Mention.stop, place.start, bytes_append]

theorem range (place : Place text mention before after) :
    mention.range text = ⟨Position.afterText before, Position.afterText (before ++ mention.name)⟩ := by
  rw [Mention.range, place.start, place.stop]
  have atStart := Position.ofByte_append before (mention.name ++ after)
  have atStop := Position.ofByte_append (before ++ mention.name) after
  rw [← List.append_assoc, ← place.split] at atStart
  rw [← place.split] at atStop
  rw [atStart, atStop]

theorem range_stop (place : Place text mention before after) :
    (mention.range text).stop =
      ⟨(Position.afterText before).line, (Position.afterText before).character + units mention.name⟩ := by
  rw [place.range]
  exact Position.afterText_piece before (place.not_mem_of_isBlank (by decide))

/-- The range, cut out of its line, is the name. -/
theorem slice_line (place : Place text mention before after) :
    slice? (lineAt text (mention.range text).start.line)
      (byteOfColumn (lineAt text (mention.range text).start.line) (mention.range text).start.character)
      (byteOfColumn (lineAt text (mention.range text).start.line) (mention.range text).stop.character) =
        some mention.name := by
  have noFeed : '\n' ∉ mention.name := place.not_mem_of_isBlank (by decide)
  have noReturn : '\r' ∉ mention.name := place.not_mem_of_isBlank (by decide)
  obtain ⟨rest, line⟩ := lineAt_around before after place.nonempty noFeed noReturn
  rw [← place.split] at line
  have atStart : (mention.range text).start = ⟨before.count '\n', units (lastLine before)⟩ := by
    rw [place.range, Position.afterText_eq]
  have atStop : (mention.range text).stop.character = units (lastLine before ++ mention.name) := by
    rw [place.range]
    simp only [Position.afterText_eq, lastLine_append before noFeed]
  have fromStart := byteOfColumn_append (lastLine before) (mention.name ++ rest)
  rw [← List.append_assoc] at fromStart
  rw [atStart, atStop, line, fromStart, byteOfColumn_append, slice?_append]

end Place

/-- Two mentions share no byte of the text. -/
def Apart (first second : Mention) : Prop :=
  first.stop ≤ second.start ∨ second.stop ≤ first.start

/-- The sign that opens the second of two uses stands behind the name of the first. -/
theorem uses_ordered (before text : List Char) :
    ((scan ColorUse.ofStart? before text).map ofUse).Pairwise fun first second => first.stop ≤ second.start := by
  rw [List.pairwise_map]
  refine pairwise_scan rfl ?_ before text
  intro before middle rest use other nonempty found foundOther
  obtain ⟨formed, after, same, _⟩ := ColorUse.wellFormed_of_ofStart? found
  obtain ⟨formedOther, afterOther, rfl, _⟩ := ColorUse.wellFormed_of_ofStart? foundOther
  obtain ⟨tail, lead, once⟩ := formed.mark
  obtain ⟨tailOther, leadOther, _⟩ := formedOther.mark
  have marks : '@' :: (tail ++ use.name) ++ after = middle ++ '@' :: (tailOther ++ other.name ++ afterOther) := by
    simpa [lead, leadOther] using same.symm
  obtain ⟨between, rfl⟩ := behind_of_opening marks once nonempty
  simp only [ofUse, Mention.stop, lead, bytes_append, bytes_cons]
  omega

theorem literals_ordered (before text : List Char) :
    ((scan hexLiteral? before text).map ofLiteral).Pairwise fun first second => first.stop ≤ second.start := by
  rw [List.pairwise_map]
  refine pairwise_scan rfl ?_ before text
  intro before middle rest literal other nonempty found foundOther
  obtain ⟨digits, after, rfl, same, hex⟩ := digits_of_hexLiteral? found
  obtain ⟨digitsOther, afterOther, rfl, rfl, _⟩ := digits_of_hexLiteral? foundOther
  have once : '#' ∉ digits := fun member => absurd (hex _ member) (by decide)
  obtain ⟨between, rfl⟩ := behind_of_opening same.symm once nonempty
  simp only [ofLiteral, Mention.stop, bytes_append, bytes_cons]
  omega

/-- A hexadecimal color does not start inside a name, and does not reach over the blank before one. -/
theorem apart_of_kinds {named : List Char × ColorUse} {literal : List Char × List Char}
    (isNamed : named ∈ scan ColorUse.ofStart? [] text) (isLiteral : literal ∈ scan hexLiteral? [] text) :
    Apart (ofUse named) (ofLiteral literal) := by
  obtain ⟨before, use⟩ := named
  obtain ⟨left, literal⟩ := literal
  obtain ⟨_, rest, rfl, rfl, found⟩ := (mem_scan rfl).mp isNamed
  obtain ⟨_, right, same, rfl, foundLiteral⟩ := (mem_scan rfl).mp isLiteral
  obtain ⟨formed, after, rfl, _⟩ := ColorUse.wellFormed_of_ofStart? found
  obtain ⟨digits, others, rfl, rfl, hex⟩ := digits_of_hexLiteral? foundLiteral
  obtain ⟨front, blank, lead, isBlank⟩ := formed.blank_before_name
  have noHash : '#' ∉ use.name := fun member => absurd (formed.name.2 _ member) (by decide)
  have noBlank : blank ∉ '#' :: digits := by
    intro member
    rcases List.mem_cons.mp member with rfl | digit
    · cases isBlank
    · rw [isBlank_of_isAlphanum (isAlphanum_of_hex (hex _ digit))] at isBlank
      cases isBlank
  have hashPlace : before ++ use.lead ++ use.name ++ after = left ++ '#' :: (digits ++ others) := by
    simpa using same
  have blankPlace : left ++ '#' :: digits ++ others = before ++ front ++ blank :: (use.name ++ after) := by
    simpa [lead] using same.symm
  rcases outside_of_not_mem hashPlace noHash with ⟨between, ahead⟩ | ⟨between, rfl⟩
  · rcases outside_of_not_mem blankPlace noBlank with ⟨_, rfl⟩ | ⟨more, behind⟩
    · have lengths := congrArg List.length ahead
      simp only [lead, List.length_append, List.length_cons, List.length_nil] at lengths
      omega
    · have sizes := congrArg bytes behind
      simp only [bytes_append] at sizes
      right
      simp only [ofUse, ofLiteral, Mention.stop, lead, bytes_append]
      omega
  · left
    simp only [ofUse, ofLiteral, Mention.stop, bytes_append]
    omega

theorem all_apart (text : List Char) : (all text).Pairwise Apart := by
  rw [all_eq, List.pairwise_append]
  refine ⟨(uses_ordered [] text).imp .inl, (literals_ordered [] text).imp .inl, ?_⟩
  intro first isNamed second isLiteral
  obtain ⟨named, use, rfl⟩ := List.mem_map.mp isNamed
  obtain ⟨literal, digits, rfl⟩ := List.mem_map.mp isLiteral
  exact apart_of_kinds use digits

theorem Apart.range_disjoint {first second : Mention} (apart : Apart first second) (text : List Char) :
    (first.range text).Disjoint (second.range text) :=
  apart.imp (Position.ofByte_mono text) (Position.ofByte_mono text)

/-- A mention is known by its range. -/
theorem range_injective {first second : Mention} (isFirst : first ∈ all text) (isSecond : second ∈ all text)
    (same : first.range text = second.range text) : first = second := by
  by_contra different
  have symmetric : Std.Symm Apart := ⟨fun _ _ => Or.symm⟩
  have apart := (all_apart text).forall isFirst isSecond different
  obtain ⟨before, after, place⟩ := place_of_mem isFirst
  have disjoint := apart.range_disjoint text
  rw [Range.Disjoint, ← same, or_self, place.range_stop, place.range, Position.le_iff] at disjoint
  have positive := units_pos place.nonempty
  simp only at disjoint
  omega

/-- The range of every mention is on one line and not empty, it cuts the mention's name out of that line,
and no two ranges share a place. -/
theorem ranges_point_at_names (text : List Char) :
    (∀ mention ∈ all text,
      let range := mention.range text
      let line := lineAt text range.start.line
      range.start.line = range.stop.line ∧ range.start.character < range.stop.character ∧
        slice? line (byteOfColumn line range.start.character) (byteOfColumn line range.stop.character) =
          some mention.name) ∧
      ((all text).map (Mention.range text)).Pairwise Range.Disjoint := by
  constructor
  · intro mention member
    obtain ⟨before, after, place⟩ := place_of_mem member
    have atStart : (mention.range text).start = Position.afterText before := by rw [place.range]
    have positive := units_pos place.nonempty
    refine ⟨?_, ?_, place.slice_line⟩
    · rw [place.range_stop, atStart]
    · rw [place.range_stop, atStart]
      exact Nat.lt_add_of_pos_right positive
  · rw [List.pairwise_map]
    exact (all_apart text).imp fun apart => apart.range_disjoint text

/-- A character outside the basic plane counts twice in a column and four times in an offset, and the
carriage return before a line feed is not on the line. -/
theorem ranges_point_at_names_beside_emoji :
    let text := "#0af\r\n/* 😀 */ @color bg body.text\r\n".toList
    let mention : Mention := ⟨.theme, "body.text".toList, 27⟩
    mention ∈ all text ∧ mention.range text = ⟨⟨1, 19⟩, ⟨1, 28⟩⟩ ∧
      slice? (lineAt text 1) (byteOfColumn (lineAt text 1) 19) (byteOfColumn (lineAt text 1) 28) =
        some "body.text".toList := by
  intro text mention
  have member : mention ∈ all text := by decide +kernel
  have range : mention.range text = ⟨⟨1, 19⟩, ⟨1, 28⟩⟩ := by decide +kernel
  have points := ((ranges_point_at_names text).1 mention member).2.2
  rw [range] at points
  exact ⟨member, range, points⟩

end ThemeSense.Mention
