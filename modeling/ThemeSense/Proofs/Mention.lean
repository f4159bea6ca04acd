import Mathlib.Data.List.TakeWhile
import ThemeSense.Mention
import ThemeSense.Proofs.Text.Pattern

namespace ThemeSense

open Text

/-- A use of `@color` up to the end of the color's name: blanks, a target, blanks and the name. -/
structure ColorUse where
  space : List Char
  target : List Char
  gap : List Char
  name : List Char
deriving Repr, DecidableEq

namespace ColorUse

section Characters

variable {c : Char}

theorem isNameChar_of_isTargetChar (target : isTargetChar c = true) : isNameChar c = true := by
  simp only [isTargetChar, Bool.or_eq_true, beq_iff_eq] at target
  rcases target with lower | rfl
  · have range : c.isLower = (decide ('a'.val ≤ c.val) && decide (c.val ≤ 'z'.val)) := rfl
    rw [range, Bool.and_eq_true, decide_eq_true_eq, decide_eq_true_eq] at lower
    have alphanumeric : c.isAlphanum = true := isAlphanum_iff.mpr (.inl (.inr lower))
    simp [isNameChar, alphanumeric]
  · rfl

theorem isBlank_of_isNameChar (name : isNameChar c = true) : isBlank c = false := by
  simp only [isNameChar, Bool.or_eq_true, beq_iff_eq] at name
  rcases name with ((alphanumeric | rfl) | rfl) | rfl
  · exact isBlank_of_isAlphanum alphanumeric
  all_goals rfl

theorem isTargetChar_of_isBlank (blank : isBlank c = true) : isTargetChar c = false := by
  rw [← Bool.not_eq_true]
  intro target
  rw [isBlank_of_isNameChar (isNameChar_of_isTargetChar target)] at blank
  cases blank

end Characters

/-- One of the five properties, or one side of the border under any name. -/
def isTarget (target : List Char) : Bool :=
  properties.contains (String.ofList target) ||
    match Text.after? "border-".toList target with
    | some side => !side.isEmpty && side.all isTargetChar
    | none => false

/-- All that stands before the name. -/
def lead (use : ColorUse) : List Char :=
  keyword ++ use.space ++ use.target ++ use.gap

/-- The use at the start of the text. -/
def ofStart? (cs : List Char) : Option ColorUse :=
  (Text.after? keyword cs).bind fun rest =>
    let space := rest.takeWhile isBlank
    let rest := rest.dropWhile isBlank
    let target := rest.takeWhile isTargetChar
    let rest := rest.dropWhile isTargetChar
    let gap := rest.takeWhile isBlank
    let name := (rest.dropWhile isBlank).takeWhile isNameChar
    if !space.isEmpty && isTarget target && !gap.isEmpty && !name.isEmpty then
      some ⟨space, target, gap, name⟩
    else none

/-- The targets of `@color`: five words, and `border-` with any side behind it. -/
inductive Target : List Char → Prop
  | word {word : String} (known : word ∈ ["fg", "bg", "fill", "stroke", "border"]) : Target word.toList
  | side {side : List Char} (nonempty : side ≠ []) (chars : ∀ c ∈ side, isTargetChar c = true) :
      Target ("border-".toList ++ side)

theorem isTarget_iff {target : List Char} : isTarget target = true ↔ Target target := by
  constructor
  · intro found
    rw [isTarget, Bool.or_eq_true] at found
    rcases found with plain | sided
    · have word := Target.word (List.contains_iff_mem.mp plain)
      rwa [String.toList_ofList] at word
    · split at sided
      · rename_i side cut
        rw [after?_eq_some.mp cut]
        simp only [Bool.and_eq_true, Bool.not_eq_true', List.isEmpty_eq_false_iff, List.all_eq_true] at sided
        exact .side sided.1 sided.2
      · cases sided
  · rintro (known | ⟨nonempty, chars⟩)
    · simp [isTarget, properties, known]
    · rename_i side
      have cut : after? "border-".toList ("border-".toList ++ side) = some side := after?_eq_some.mpr rfl
      rw [isTarget, Bool.or_eq_true, cut]
      exact .inr (by simpa [nonempty] using chars)

theorem isTarget_chars {target : List Char} (found : isTarget target = true) :
    target ≠ [] ∧ ∀ c ∈ target, isTargetChar c = true := by
  obtain ⟨known⟩ | ⟨_, chars⟩ := isTarget_iff.mp found
  · have words : ∀ word ∈ ["fg", "bg", "fill", "stroke", "border"],
        word.toList ≠ [] ∧ word.toList.all isTargetChar = true := by decide
    simpa using words _ known
  · refine ⟨by simp, fun c member => ?_⟩
    rcases List.mem_append.mp member with start | inSide
    · have letters : "border-".toList.all isTargetChar = true := by decide
      exact List.all_eq_true.mp letters c start
    · exact chars c inSide

/-- The parts of a use are what they should be. -/
structure WellFormed (use : ColorUse) : Prop where
  space : use.space ≠ [] ∧ ∀ c ∈ use.space, isBlank c = true
  target : isTarget use.target = true
  gap : use.gap ≠ [] ∧ ∀ c ∈ use.gap, isBlank c = true
  name : use.name ≠ [] ∧ ∀ c ∈ use.name, isNameChar c = true

/-- A use that is found is well formed, and its name is as long as it can be. -/
theorem wellFormed_of_ofStart? {cs : List Char} {use : ColorUse} (found : ofStart? cs = some use) :
    use.WellFormed ∧ ∃ after, cs = use.lead ++ use.name ++ after ∧ Ends isNameChar after := by
  obtain ⟨rest, start, found⟩ := Option.bind_eq_some_iff.mp found
  dsimp only at found
  split at found
  · rename_i complete
    cases found
    simp only [Bool.and_eq_true, Bool.not_eq_true', List.isEmpty_eq_false_iff] at complete
    obtain ⟨⟨⟨space, target⟩, gap⟩, name⟩ := complete
    refine ⟨⟨⟨space, fun c => List.mem_takeWhile_imp⟩, target, ⟨gap, fun c => List.mem_takeWhile_imp⟩, name,
      fun c => List.mem_takeWhile_imp⟩, _, ?_,
      ends_dropWhile (((rest.dropWhile isBlank).dropWhile isTargetChar).dropWhile isBlank)⟩
    simp only [lead, List.append_assoc, List.takeWhile_append_dropWhile]
    exact after?_eq_some.mp start
  · cases found

namespace WellFormed

variable {use : ColorUse}

/-- A well-formed use is found wherever it stands, if no more of a name follows it. -/
theorem ofStart? (formed : use.WellFormed) {after : List Char} (ends : Ends isNameChar after) :
    ofStart? (use.lead ++ use.name ++ after) = some use := by
  obtain ⟨targetNonempty, targetChars⟩ := isTarget_chars formed.target
  have start : after? keyword (use.lead ++ use.name ++ after) =
      some (use.space ++ (use.target ++ (use.gap ++ (use.name ++ after)))) :=
    after?_eq_some.mpr (by simp [lead])
  have atTarget : Ends isBlank (use.target ++ (use.gap ++ (use.name ++ after))) :=
    ends_append targetNonempty fun c member =>
      isBlank_of_isNameChar (isNameChar_of_isTargetChar (targetChars c member))
  have atGap : Ends isTargetChar (use.gap ++ (use.name ++ after)) :=
    ends_append formed.gap.1 fun c member => isTargetChar_of_isBlank (formed.gap.2 c member)
  have atName : Ends isBlank (use.name ++ after) :=
    ends_append formed.name.1 fun c member => isBlank_of_isNameChar (formed.name.2 c member)
  rw [ColorUse.ofStart?, start, Option.bind_some]
  simp only [atTarget.takeWhile formed.space.2, atTarget.dropWhile formed.space.2, atGap.takeWhile targetChars,
    atGap.dropWhile targetChars, atName.takeWhile formed.gap.2, atName.dropWhile formed.gap.2,
    ends.takeWhile formed.name.2]
  rw [if_pos (by simp [formed.space.1, formed.target, formed.gap.1, formed.name.1])]

/-- The sign that opens a use stands nowhere else in it. -/
theorem mark (formed : use.WellFormed) : ∃ rest, use.lead = '@' :: rest ∧ '@' ∉ rest ++ use.name := by
  refine ⟨"color".toList ++ use.space ++ use.target ++ use.gap, rfl, ?_⟩
  simp only [List.mem_append, not_or]
  refine ⟨⟨⟨⟨by decide, fun member => ?_⟩, fun member => ?_⟩, fun member => ?_⟩, fun member => ?_⟩
  · exact absurd (formed.space.2 _ member) (by decide)
  · exact absurd ((isTarget_chars formed.target).2 _ member) (by decide)
  · exact absurd (formed.gap.2 _ member) (by decide)
  · exact absurd (formed.name.2 _ member) (by decide)

/-- A blank stands right before the name. -/
theorem blank_before_name (formed : use.WellFormed) :
    ∃ front blank, use.lead = front ++ [blank] ∧ isBlank blank = true := by
  obtain ⟨gap, blank, ends⟩ := List.eq_nil_or_concat use.gap |>.resolve_left formed.gap.1
  refine ⟨keyword ++ use.space ++ use.target ++ gap, blank, ?_, formed.gap.2 blank ?_⟩
  · simp [lead, ends]
  · simp [ends]

end WellFormed

section Search

open Pattern

theorem takesRun_blanks : blanks.TakesRun isBlank (!·.isEmpty) :=
  (TakesRun.run (by decide) none).congr fun stretch _ => by
    cases stretch <;> simp

theorem takesRun_targets : targets.TakesRun isTargetChar isTarget := by
  have known : ∀ property ∈ properties, isTarget property.toList = true := by decide
  have letters : "border-".toList.all isTargetChar = true := by decide
  have side : (chain (.word "border-".toList) (.run isTargetChar 1 none)).TakesRun isTargetChar _ :=
    .wordThen (List.all_eq_true.mp letters) (.run (by decide) none)
  refine (TakesRun.words (fun property listed => isTarget_chars (known property listed)) side).congr
    fun stretch chars => congrArg (_ || ·) ?_
  cases cut : after? "border-".toList stretch with
  | none => rfl
  | some side =>
    have sideChars : side.all isTargetChar = true := by
      rw [List.all_eq_true]
      intro c inside
      rw [after?_eq_some.mp cut] at chars
      exact chars c (List.mem_append_right _ inside)
    cases side <;> simp [sideChars]

variable (found : Match) (cs : List Char)

theorem search_names : (group names).search found cs done =
    if (cs.takeWhile isNameChar).isEmpty then none else some ((found.take (cs.takeWhile isNameChar)).close found) := by
  rw [search_group, names, search_run, stretch?_of_accepting _ fun _ _ => rfl]
  cases cs.takeWhile isNameChar <;> simp [done]

/-- All blanks belong to a gap, if what follows it cannot start with one. -/
theorem search_blanks {others : Pattern}
    (refuses : ∀ found c rest, isBlank c = true → others.search found (c :: rest) done = none) :
    (chain blanks others).search found cs done =
      if (cs.takeWhile isBlank).isEmpty then none
      else others.search (found.take (cs.takeWhile isBlank)) (cs.dropWhile isBlank) done := by
  rw [search_chain, takesRun_blanks.search_eq]
  · cases cs.takeWhile isBlank <;> rfl
  · exact fun stretch c rest _ _ => refuses (found.take stretch) c rest

theorem search_gap : (chain blanks (group names)).search found cs done =
    if (cs.takeWhile isBlank).isEmpty then none
    else (group names).search (found.take (cs.takeWhile isBlank)) (cs.dropWhile isBlank) done := by
  refine search_blanks found cs fun found c rest blank => ?_
  have noName : isNameChar c = false := by
    rw [← Bool.not_eq_true]
    intro name
    rw [isBlank_of_isNameChar name] at blank
    cases blank
  rw [search_names, List.takeWhile_cons_of_neg (by simp [noName])]
  rfl

theorem search_targets : (chain (group targets) (chain blanks (group names))).search found cs done =
    if isTarget (cs.takeWhile isTargetChar) then
      (chain blanks (group names)).search ((found.take (cs.takeWhile isTargetChar)).close found)
        (cs.dropWhile isTargetChar) done
    else none := by
  rw [search_chain, search_group, takesRun_targets.search_eq]
  intro stretch c rest _ _ target
  have noBlank : isBlank c = false := isBlank_of_isNameChar (isNameChar_of_isTargetChar target)
  dsimp only
  rw [search_gap, List.takeWhile_cons_of_neg (by simp [noBlank])]
  rfl

theorem search_space : (chain blanks (chain (group targets) (chain blanks (group names)))).search found cs done =
    if (cs.takeWhile isBlank).isEmpty then none
    else (chain (group targets) (chain blanks (group names))).search (found.take (cs.takeWhile isBlank))
      (cs.dropWhile isBlank) done := by
  refine search_blanks found cs fun found c rest blank => ?_
  rw [search_targets, List.takeWhile_cons_of_neg (by simp [isTargetChar_of_isBlank blank])]
  rfl

/-- What the pattern matches where a use stands: the target and the name are its groups. -/
def toMatch (previous : Option Char) (use : ColorUse) : Match :=
  ⟨previous, use.lead ++ use.name, [(keyword ++ use.space, use.target), (use.lead, use.name)]⟩

theorem close_names (previous : Option Char) (use : ColorUse) :
    let space := ((Match.start previous).take keyword).take use.space
    let gap := ((space.take use.target).close space).take use.gap
    (gap.take use.name).close gap = toMatch previous use := by
  dsimp only
  rw [Match.close_take, Match.close_take]
  simp [Match.start, Match.take, toMatch, lead]

/-- The search for a use never has to come back to an earlier choice. -/
theorem first?_pattern (previous : Option Char) :
    pattern.first? previous cs = (ofStart? cs).map (toMatch previous) := by
  have start : pattern.first? previous cs =
      (after? keyword cs).bind fun rest =>
        (chain blanks (chain (group targets) (chain blanks (group names)))).search
          ((Match.start previous).take keyword) rest done := rfl
  rw [start, ofStart?, Option.map_bind]
  refine Option.bind_congr fun rest _ => ?_
  rw [search_space, search_targets, search_gap, search_names, Function.comp_apply]
  dsimp only
  generalize rest.takeWhile isBlank = space
  generalize rest.dropWhile isBlank = rest
  generalize rest.takeWhile isTargetChar = target
  generalize rest.dropWhile isTargetChar = rest
  generalize rest.takeWhile isBlank = gap
  generalize (rest.dropWhile isBlank).takeWhile isNameChar = name
  rw [close_names previous ⟨space, target, gap, name⟩]
  cases space.isEmpty <;> cases isTarget target <;> cases gap.isEmpty <;> cases name.isEmpty <;> rfl

theorem pattern_readBy : pattern.ReadBy ofStart? toMatch '@' where
  first?_eq previous cs := first?_pattern cs previous
  marked {cs use} found := by
    obtain ⟨formed, after, same, _⟩ := wellFormed_of_ofStart? found
    obtain ⟨rest, lead, once⟩ := formed.mark
    refine ⟨rest ++ use.name, after, ?_, once, fun previous => ?_⟩
    · rw [same, lead, List.cons_append]
    · rw [toMatch, lead, List.cons_append]

end Search

end ColorUse

/-- The hexadecimal color at the start of the text: `#` and all digits that follow, three to eight
of them, with no letter after them. -/
def hexLiteral? : List Char → Option (List Char)
  | [] => none
  | c :: rest =>
    let digits := rest.takeWhile Hex.isDigit
    let next := (rest.dropWhile Hex.isDigit).head?
    if c == '#' && 3 ≤ digits.length && digits.length ≤ 8 && !next.any isWordChar then some (c :: digits)
    else none

/-- What a hexadecimal color consists of. -/
theorem hexLiteral?_eq_some {rest literal : List Char} : hexLiteral? rest = some literal ↔
    ∃ digits after, literal = '#' :: digits ∧ rest = literal ++ after ∧ (∀ c ∈ digits, Hex.isDigit c = true) ∧
      Ends Hex.isDigit after ∧ 3 ≤ digits.length ∧ digits.length ≤ 8 ∧ Ends isWordChar after := by
  constructor
  · intro found
    cases rest with
    | nil => cases found
    | cons c rest =>
      rw [hexLiteral?] at found
      split at found
      · rename_i complete
        cases found
        simp only [Bool.and_eq_true, beq_iff_eq, decide_eq_true_eq, Bool.not_eq_true', Option.any_eq_false] at complete
        obtain ⟨⟨⟨rfl, least⟩, most⟩, wordEnds⟩ := complete
        refine ⟨_, rest.dropWhile Hex.isDigit, rfl, by simp, fun c => List.mem_takeWhile_imp,
          ends_dropWhile rest, least, most, ?_⟩
        simpa [Ends] using wordEnds
      · cases found
  · rintro ⟨digits, after, rfl, rfl, hex, ends, least, most, wordEnds⟩
    have noWord : after.head?.any isWordChar = false := by
      cases after with
      | nil => rfl
      | cons d after => exact ends_cons.mp wordEnds
    rw [List.cons_append, hexLiteral?]
    simp only [ends.takeWhile hex, ends.dropWhile hex, noWord]
    simp [least, most]

theorem digits_of_hexLiteral? {cs literal : List Char} (found : hexLiteral? cs = some literal) :
    ∃ digits after, literal = '#' :: digits ∧ cs = literal ++ after ∧ ∀ c ∈ digits, Hex.isDigit c = true := by
  obtain ⟨digits, after, isLiteral, split, hex, _⟩ := hexLiteral?_eq_some.mp found
  exact ⟨digits, after, isLiteral, split, hex⟩

section Search

open Pattern

theorem isWordChar_of_isDigit {c : Char} (hex : Hex.isDigit c = true) : isWordChar c = true := by
  simp [isWordChar, isAlphanum_of_hex hex]

/-- What the pattern matches where a hexadecimal color stands. -/
def literalMatch (previous : Option Char) (literal : List Char) : Match :=
  ⟨previous, literal, [(['#'], literal.tail)]⟩

/-- Fewer digits than there are do not end at the edge of a word, so the search comes to all of them or to none. -/
theorem search_digits (found : Match) (cs : List Char) :
    (chain (group (.run Hex.isDigit 3 (some 8))) wordEdge).search found cs done =
      if 3 ≤ (cs.takeWhile Hex.isDigit).length && (cs.takeWhile Hex.isDigit).length ≤ 8 &&
          !(cs.dropWhile Hex.isDigit).head?.any isWordChar then
        some ((found.take (cs.takeWhile Hex.isDigit)).close found)
      else none := by
  rw [search_chain, search_group, (TakesRun.run (by decide) (some 8)).search_eq]
  · by_cases count : 3 ≤ (cs.takeWhile Hex.isDigit).length ∧ (cs.takeWhile Hex.isDigit).length ≤ 8
    · have nonempty : cs.takeWhile Hex.isDigit ≠ [] := List.length_pos_iff.mp (by omega)
      rw [if_pos (by simpa using count), search_wordEdge_behind _ _ _ nonempty fun d inside =>
        isWordChar_of_isDigit (List.mem_takeWhile_imp inside)]
      cases (cs.dropWhile Hex.isDigit).head?.any isWordChar
      · simp [count, done]
      · simp
    · rw [if_neg (by simpa using count), if_neg]
      simp only [Bool.and_eq_true, decide_eq_true_eq]
      exact fun fits => count fits.1
  · intro stretch c rest nonempty digits digit
    dsimp only
    rw [search_wordEdge_behind _ _ _ nonempty fun d inside => isWordChar_of_isDigit (digits d inside)]
    simp [isWordChar_of_isDigit digit]

theorem first?_hexLiteral (previous : Option Char) (cs : List Char) :
    hexLiteral.first? previous cs = (hexLiteral? cs).map (literalMatch previous) := by
  have start : hexLiteral.first? previous cs = (after? ['#'] cs).bind fun rest =>
      (chain (group (.run Hex.isDigit 3 (some 8))) wordEdge).search ((Match.start previous).take ['#']) rest
        done := rfl
  rw [start]
  cases cs with
  | nil => rfl
  | cons c rest =>
    by_cases isMark : c = '#'
    · have cut : after? ['#'] ('#' :: rest) = some rest := after?_eq_some.mpr rfl
      rw [isMark, cut, Option.bind_some, search_digits, hexLiteral?, Match.close_take, beq_self_eq_true, Bool.true_and]
      split <;> rfl
    · have cut : after? ['#'] (c :: rest) = none := by
        simp [after?, List.isPrefixOf?, Ne.symm isMark]
      simp [cut, hexLiteral?, isMark]

theorem hexLiteral_readBy : hexLiteral.ReadBy hexLiteral? literalMatch '#' where
  first?_eq := first?_hexLiteral
  marked found := by
    obtain ⟨digits, after, rfl, rfl, hex⟩ := digits_of_hexLiteral? found
    exact ⟨digits, after, rfl, fun member => absurd (hex _ member) (by decide), fun _ => rfl⟩

end Search

namespace Mention

/-- The mention that a use of `@color` makes, with all that stands before the use. -/
def ofUse (found : List Char × ColorUse) : Mention :=
  ⟨.theme, found.2.name, bytes (found.1 ++ found.2.lead)⟩

def ofLiteral (found : List Char × List Char) : Mention :=
  ⟨.hex, found.2, bytes found.1⟩

theorem all_eq (text : List Char) :
    all text = (scan ColorUse.ofStart? [] text).map ofUse ++ (scan hexLiteral? [] text).map ofLiteral := by
  rw [all, ColorUse.pattern_readBy.occurrences_eq_scan, hexLiteral_readBy.occurrences_eq_scan, List.filterMap_map,
    List.map_map]
  refine congrArg (· ++ _) ?_
  rw [← List.filterMap_eq_map]
  refine congrArg (List.filterMap · _) (funext fun found => ?_)
  simp [ofColorUse?, ofUse, ColorUse.toMatch]

/-- The mentions in a text: the names of the uses of `@color`, wherever one starts, and the hexadecimal
colors, wherever one starts. -/
theorem mem_all {text : List Char} {mention : Mention} : mention ∈ all text ↔
    (∃ before rest use, text = before ++ rest ∧ ColorUse.ofStart? rest = some use ∧
      mention = ⟨.theme, use.name, bytes (before ++ use.lead)⟩) ∨
    ∃ before rest literal, text = before ++ rest ∧ hexLiteral? rest = some literal ∧
      mention = ⟨.hex, literal, bytes before⟩ := by
  rw [all_eq, List.mem_append, List.mem_map, List.mem_map]
  refine or_congr ?_ ?_
  · constructor
    · rintro ⟨⟨before, use⟩, found, rfl⟩
      obtain ⟨_, rest, rfl, rfl, atRest⟩ := (mem_scan rfl).mp found
      exact ⟨before, rest, use, rfl, atRest, rfl⟩
    · rintro ⟨before, rest, use, rfl, found, rfl⟩
      exact ⟨(before, use), (mem_scan rfl).mpr ⟨before, rest, rfl, rfl, found⟩, rfl⟩
  · constructor
    · rintro ⟨⟨before, literal⟩, found, rfl⟩
      obtain ⟨_, rest, rfl, rfl, atRest⟩ := (mem_scan rfl).mp found
      exact ⟨before, rest, literal, rfl, atRest, rfl⟩
    · rintro ⟨before, rest, literal, rfl, found, rfl⟩
      exact ⟨(before, literal), (mem_scan rfl).mpr ⟨before, rest, rfl, rfl, found⟩, rfl⟩

/-- A color that is mentioned by its name has one, and not one that could be a literal. -/
theorem name_of_theme {text : List Char} {mention : Mention} (member : mention ∈ all text)
    (isTheme : mention.kind = .theme) :
    mention.name ≠ [] ∧ mention.name.head? ≠ some '#' := by
  rcases mem_all.mp member with ⟨before, rest, use, _, found, rfl⟩ | ⟨_, _, _, _, _, rfl⟩
  · obtain ⟨nonempty, valid⟩ := (ColorUse.wellFormed_of_ofStart? found).1.name
    refine ⟨nonempty, fun literal => ?_⟩
    have impossible := valid '#' (List.mem_of_head? literal)
    revert impossible
    decide
  · cases isTheme

end Mention

end ThemeSense
