import ThemeSense.Proofs.Mention.Ranges

namespace ThemeSense

open Text

namespace ColorUse

/-- A use of `@color` stands in a text behind `before`: the keyword, blanks, a target, blanks, and a name that
is as long as it can be. -/
structure StandsIn (text before : List Char) (use : ColorUse) : Prop where
  space : use.space ≠ [] ∧ ∀ c ∈ use.space, isBlank c = true
  target : Target use.target
  gap : use.gap ≠ [] ∧ ∀ c ∈ use.gap, isBlank c = true
  name : use.name ≠ [] ∧ ∀ c ∈ use.name, isNameChar c = true
  place : ∃ after, text = before ++ ("@color".toList ++ use.space ++ use.target ++ use.gap ++ use.name) ++ after ∧
    Ends isNameChar after

theorem standsIn_iff {text before : List Char} {use : ColorUse} :
    use.StandsIn text before ↔ ∃ rest, text = before ++ rest ∧ ofStart? rest = some use := by
  have place (after : List Char) :
      before ++ ("@color".toList ++ use.space ++ use.target ++ use.gap ++ use.name) ++ after =
        before ++ (use.lead ++ use.name ++ after) := List.append_assoc ..
  constructor
  · rintro ⟨space, target, gap, name, after, rfl, ends⟩
    have formed : use.WellFormed := ⟨space, isTarget_iff.mpr target, gap, name⟩
    exact ⟨use.lead ++ use.name ++ after, place after, formed.ofStart? ends⟩
  · rintro ⟨rest, rfl, found⟩
    obtain ⟨formed, after, rfl, ends⟩ := wellFormed_of_ofStart? found
    exact ⟨formed.space, isTarget_iff.mp formed.target, formed.gap, formed.name, after, (place after).symm, ends⟩

end ColorUse

/-- A hexadecimal color stands in a text behind `before`: `#` and all the digits that follow it, three to eight
of them, and what comes next is no part of a word. -/
def HexStandsIn (text before literal : List Char) : Prop :=
  ∃ digits after, literal = '#' :: digits ∧ text = before ++ literal ++ after ∧
    (∀ c ∈ digits, Hex.isDigit c = true) ∧ Ends Hex.isDigit after ∧
    3 ≤ digits.length ∧ digits.length ≤ 8 ∧ Ends isWordChar after

theorem hexStandsIn_iff {text before literal : List Char} :
    HexStandsIn text before literal ↔ ∃ rest, text = before ++ rest ∧ hexLiteral? rest = some literal := by
  constructor
  · rintro ⟨digits, after, isLiteral, rfl, others⟩
    exact ⟨literal ++ after, by simp, hexLiteral?_eq_some.mpr ⟨digits, after, isLiteral, rfl, others⟩⟩
  · rintro ⟨rest, rfl, found⟩
    obtain ⟨digits, after, isLiteral, rfl, others⟩ := hexLiteral?_eq_some.mp found
    exact ⟨digits, after, isLiteral, by simp, others⟩

namespace Mention

/-- All things that stand in a text, each once and from left to right, with what stands before them. -/
structure LeftToRight {α : Type} (stands : List Char → α → Prop) (found : List (List Char × α)) : Prop where
  ordered : found.Pairwise fun first second => first.1.length < second.1.length
  complete : ∀ before thing, (before, thing) ∈ found ↔ stands before thing

theorem leftToRight_scan {α : Type} {find? : List Char → Option α} (empty : find? [] = none) {text : List Char}
    {stands : List Char → α → Prop}
    (meaning : ∀ before thing, stands before thing ↔ ∃ rest, text = before ++ rest ∧ find? rest = some thing) :
    LeftToRight stands (scan find? [] text) where
  ordered := by
    refine pairwise_scan empty ?_ [] text
    intro before middle rest first second nonempty _ _
    have positive := List.length_pos_iff.mpr nonempty
    simp only [List.length_append]
    omega
  complete before thing := by
    rw [mem_scan empty, meaning]
    constructor
    · rintro ⟨_, rest, same, rfl, found⟩
      exact ⟨rest, same, found⟩
    · rintro ⟨rest, same, found⟩
      exact ⟨before, rest, same, rfl, found⟩

/-- The mentions in a text are one for each use of `@color`, and behind them one for each hexadecimal color,
both from left to right. Each is the text between its ends, which are not inside a character, and no two of
them share any part of the text. -/
theorem all_of_grammar (text : List Char) :
    (∃ uses literals, LeftToRight (ColorUse.StandsIn text) uses ∧
      LeftToRight (HexStandsIn text) literals ∧
      all text =
        uses.map (fun found => ⟨.theme, found.2.name, bytes (found.1 ++ found.2.lead)⟩) ++
          literals.map (fun found => ⟨.hex, found.2, bytes found.1⟩)) ∧
    (∀ mention ∈ all text, slice? text mention.start mention.stop = some mention.name ∧
      ∃ before after, text = before ++ mention.name ++ after ∧ mention.start = bytes before ∧
        mention.stop = bytes (before ++ mention.name)) ∧
    (all text).Pairwise Apart := by
  refine ⟨⟨scan ColorUse.ofStart? [] text, scan hexLiteral? [] text, ?_, ?_, all_eq text⟩, ?_, all_apart text⟩
  · exact leftToRight_scan rfl fun _ _ => ColorUse.standsIn_iff
  · exact leftToRight_scan rfl fun _ _ => hexStandsIn_iff
  · intro mention member
    obtain ⟨before, after, place⟩ := place_of_mem member
    refine ⟨?_, before, after, place.split, place.start, place.stop⟩
    rw [place.start, place.stop, place.split]
    exact slice?_append before mention.name after

/-- A side that ends with a hyphen, blanks of two kinds, a use right behind the name of another, one with a
literal in the place of its name, and literals with too many digits or a letter behind them. -/
theorem all_of_grammar_of_crowded_text :
    let text := "é@color border-x-\t\n a.b-@color bg c#12345678 @color fg #fff #123456789 #abcé".toList
    let mention : Mention := ⟨.theme, "c".toList, 35⟩
    all text = [⟨.theme, "a.b-".toList, 21⟩, mention, ⟨.hex, "#12345678".toList, 36⟩, ⟨.hex, "#fff".toList, 56⟩] ∧
      slice? text 35 36 = some "c".toList ∧ (all text).Pairwise Apart := by
  intro text mention
  have found : all text =
      [⟨.theme, "a.b-".toList, 21⟩, mention, ⟨.hex, "#12345678".toList, 36⟩, ⟨.hex, "#fff".toList, 56⟩] := by
    decide +kernel
  have member : mention ∈ all text := by
    rw [found]
    exact .tail _ (.head _)
  have grammar := all_of_grammar text
  exact ⟨found, (grammar.2.1 mention member).1, grammar.2.2⟩

end Mention

end ThemeSense
