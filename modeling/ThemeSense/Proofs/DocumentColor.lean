import ThemeSense.DocumentColor
import ThemeSense.Proofs.Color.Hexadecimal
import ThemeSense.Proofs.Color.Identifier
import ThemeSense.Proofs.Color.Named
import ThemeSense.Proofs.Editor.Drawing
import ThemeSense.Proofs.Mention.Ranges

namespace ThemeSense

/-- A reader of CSS takes nothing but names of colors for colors among the words that can be names. -/
def ReadsOnlyNames (css : List Char → Option Rgba) : Prop :=
  ∀ name, name ≠ [] → (∀ c ∈ name, ColorUse.isNameChar c = true) → (css name).isSome = true →
    (namedColor? (String.ofList name)).isSome = true

theorem Css.readsOnlyNames_parse? : ReadsOnlyNames Css.parse? := by
  intro name nonempty chars read
  obtain ⟨color, found⟩ := Option.isSome_iff_exists.mp read
  exact Css.isSome_namedColor?_of_parse? nonempty chars found

namespace ReadsOnlyNames

variable {css : List Char → Option Rgba} {name : List Char}

/-- A name that can be read as a color is the name of one. -/
theorem isSome_namedColor? (names : ReadsOnlyNames css) (nonempty : name ≠ [])
    (chars : ∀ c ∈ name, ColorUse.isNameChar c = true) {color : Rgba}
    (read : Rgba.parseBy css (String.ofList name) = .ok color) : (namedColor? (String.ofList name)).isSome = true := by
  rw [Rgba.parseBy, String.toList_ofList,
    Text.trim_of_solid fun c member => ColorUse.isBlank_of_isNameChar (chars c member)] at read
  split at read
  · cases read
  · have hash := chars '#' (by simp)
    cases hash
  · split at read
    · rename_i found
      exact names name nonempty chars (by simp [found])
    · cases read

/-- A name that stands for a color without a theme has the value that it is shown with. -/
theorem settled_of_unknown (names : ReadsOnlyNames css) (nonempty : name ≠ [])
    (chars : ∀ c ∈ name, ColorUse.isNameChar c = true) {rgba : Rgba}
    (shown : Rgba.parseBy css (hexColor (String.ofList name)) = .ok rgba) :
    ∃ color, (builtinColor? (String.ofList name) <|> namedColor? (String.ofList name)) = some color ∧
      Rgba.parseBy css (hexColor color) = .ok rgba := by
  cases named : namedColor? (String.ofList name) with
  | none =>
    rw [hexColor_of_unnamed named] at shown
    have isNamed := names.isSome_namedColor? nonempty chars shown
    rw [named] at isNamed
    cases isNamed
  | some value =>
    obtain ⟨hexName, hexValue⟩ := hexColor_of_namedColor? named
    rw [hexName] at shown
    refine ⟨value, ?_, by rw [hexValue]; exact shown⟩
    cases builtin : builtinColor? (String.ofList name) with
    | none => rfl
    | some other =>
      have same := namedColor?_of_builtinColor? builtin
      rw [named] at same
      exact same.symm

end ReadsOnlyNames

namespace Mention

theorem value_theme (theme : Theme) (name : List Char) (start : Nat) :
    value theme.colorTable? ⟨.theme, name, start⟩ =
      hexColor ((theme.value? (String.ofList name)).getD (String.ofList name)) := rfl

theorem value_hex (table : Option ColorTable) (name : List Char) (start : Nat) :
    value table ⟨.hex, name, start⟩ = String.ofList name := rfl

theorem settled_theme (value? : String → Option String) (name : List Char) (start : Nat) :
    settled value? ⟨.theme, name, start⟩ = settledColor value? (String.ofList name) := rfl

/-- A mention that is shown as a color is drawn, with a value for the same color. -/
theorem settled_of_shown {css : List Char → Option Rgba} (names : ReadsOnlyNames css) {text : List Char}
    {mention : Mention} (member : mention ∈ all text) {theme : Theme} {rgba : Rgba}
    (shown : Rgba.parseBy css (mention.value theme.colorTable?) = .ok rgba) :
    ∃ color, mention.settled theme.value? = some color ∧ Rgba.parseBy css (hexColor color) = .ok rgba := by
  rcases mem_all.mp member with ⟨before, rest, use, _, found, rfl⟩ | ⟨before, rest, literal, _, found, rfl⟩
  · obtain ⟨nonempty, chars⟩ := (ColorUse.wellFormed_of_ofStart? found).1.name
    rw [value_theme] at shown
    rw [settled_theme]
    cases value : theme.value? (String.ofList use.name) with
    | none =>
      rw [value, Option.getD_none] at shown
      rw [settledColor_of_empty (by simp [value])]
      exact names.settled_of_unknown nonempty chars shown
    | some color =>
      rw [value, Option.getD_some] at shown
      -- an empty value is no color, so it is not shown, and not learnt either
      have some : color ≠ "" := by
        rintro rfl
        have unnamed : hexColor "" = "" := by decide +kernel
        rw [unnamed] at shown
        cases shown
      exact ⟨color, settledColor_of_some value some, shown⟩
  · obtain ⟨digits, _, rfl, _, _⟩ := digits_of_hexLiteral? found
    have same : hexColor (String.ofList ('#' :: digits)) = String.ofList ('#' :: digits) := by
      simp [hexColor]
    rw [value_hex, ← same] at shown
    exact ⟨String.ofList ('#' :: digits), rfl, shown⟩

/-- A hexadecimal color is shown if it has the digits of one. -/
theorem shown_of_hex_iff {text : List Char} {mention : Mention} (member : mention ∈ all text)
    (isHex : mention.kind = .hex)
    (css : List Char → Option Rgba) (table : Option ColorTable) :
    (∃ rgba, Rgba.parseBy css (mention.value table) = .ok rgba) ↔ mention.name.tail.length ∈ [3, 4, 6, 8] := by
  rcases mem_all.mp member with ⟨_, _, _, _, _, rfl⟩ | ⟨before, rest, literal, _, found, rfl⟩
  · cases isHex
  · obtain ⟨digits, _, rfl, _, hex⟩ := digits_of_hexLiteral? found
    have hexDigits : ∀ c ∈ digits, Hex.IsHex c := fun c member => Hex.isHex_iff.mpr (hex c member)
    rw [value_hex, (Rgba.hashed_of_isHex hexDigits).parseBy_eq, Rgba.ofHex_ok_iff hexDigits, List.tail_cons]

end Mention

namespace Theme

/-- What a new palette draws over a text in its second pass, when the theme has answered everything that
the first one asked. -/
def secondPass (theme : Theme) (text : List Char) : List Decoration :=
  let (queries, palette) := (Palette.empty.decorate text).2.takeSent
  ((palette.learnAll (theme.answers queries).1).decorate text).1.decorations

theorem Steady.secondPass {theme : Theme} (steady : theme.Steady) (text : List Char) :
    theme.secondPass text = settledDecorations theme.value? text := by
  obtain ⟨queries, passed⟩ := Palette.empty.decorate_passed text
  have right : ∀ query ∈ (Palette.empty.decorate text).2.sent, ∀ color ∈ (theme.answer query).1,
      theme.value? color.name = some color.value := by
    intro query sent color answered
    obtain ⟨names, asked, _⟩ := Palette.empty.decorate_asks text
    rw [asked] at sent
    obtain ⟨name, _, rfl⟩ := List.mem_map.mp sent
    exact value?_of_mem_answer_one answered
  have faithful := (steady.faithful_answers right (Faithful.empty.asked passed.asked)).learnAll
  have covers : (Palette.empty.decorate text).2.CoversText text := fun mention member isTheme =>
    passed.covers rfl mention member isTheme (Mention.name_of_theme member isTheme).2
  obtain ⟨_, again⟩ := Palette.decorate_passed
    (({ (Palette.empty.decorate text).2 with sent := [] }).learnAll
      (theme.answers (Palette.empty.decorate text).2.sent).1) text
  refine again.drawn.trans (Palette.drawn_settled faithful ?_ (covers.takeSent.learnAll _))
  simp [Palette.learnAll_sent]

variable {theme : Theme} {text : List Char} {css : List Char → Option Rgba}

/-- The colors that a document shows if CSS is read by `css`. -/
def documentColorsBy (css : List Char → Option Rgba) (theme : Theme) (text : List Char) : List DocumentColor :=
  (Mention.all text).filterMap fun mention =>
    (Rgba.parseBy css (mention.value theme.colorTable?)).toOption.map (⟨mention.range text, ·⟩)

theorem documentColors_fst (theme : Theme) (text : List Char) :
    (theme.documentColors text).1 = theme.documentColorsBy Css.parse? text := rfl

theorem Steady.documentColorsBy (steady : theme.Steady) (css : List Char → Option Rgba) (text : List Char)
    (count : Nat) : (Theme.accessed^[count] theme).documentColorsBy css text = theme.documentColorsBy css text := by
  rw [Theme.documentColorsBy, Theme.documentColorsBy, steady count]

theorem mem_documentColorsBy {color : DocumentColor} : color ∈ theme.documentColorsBy css text ↔
    ∃ mention ∈ Mention.all text, color.range = mention.range text ∧
      Rgba.parseBy css (mention.value theme.colorTable?) = .ok color.color := by
  rw [documentColorsBy, List.mem_filterMap]
  refine exists_congr fun mention => and_congr_right fun _ => ?_
  cases Rgba.parseBy css (mention.value theme.colorTable?) with
  | error => simp [Except.toOption]
  | ok rgba =>
    cases color
    simp [Except.toOption, eq_comm]

theorem mem_settledDecorations {value? : String → Option String} {decoration : Decoration} :
    decoration ∈ settledDecorations value? text ↔
      ∃ mention ∈ Mention.all text, decoration.range = mention.range text ∧
        mention.settled value? = some decoration.color := by
  rw [settledDecorations, List.mem_filterMap]
  refine exists_congr fun mention => and_congr_right fun _ => ?_
  cases mention.settled value? with
  | none => simp
  | some color =>
    cases decoration
    simp [eq_comm]

/-- Whatever is shown as a color is drawn, in the same order. -/
theorem ranges_sublist (names : ReadsOnlyNames css) : ((theme.documentColorsBy css text).map (·.range)).Sublist
    ((settledDecorations theme.value? text).map (·.range)) := by
  have shown : (theme.documentColorsBy css text).map (·.range) =
      (Mention.all text).filterMap fun mention =>
        (Rgba.parseBy css (mention.value theme.colorTable?)).toOption.map fun _ => mention.range text := by
    simp [documentColorsBy, List.map_filterMap, Function.comp_def]
  have drawn : (settledDecorations theme.value? text).map (·.range) =
      (Mention.all text).filterMap fun mention => (mention.settled theme.value?).map fun _ => mention.range text := by
    simp [settledDecorations, List.map_filterMap, Function.comp_def]
  have cut : (Mention.all text).filterMap (fun mention =>
      (Rgba.parseBy css (mention.value theme.colorTable?)).toOption.map fun _ => mention.range text) =
      ((Mention.all text).filter fun mention =>
        (Rgba.parseBy css (mention.value theme.colorTable?)).toOption.isSome).filterMap
        fun mention => (mention.settled theme.value?).map fun _ => mention.range text := by
    rw [List.filterMap_filter]
    refine List.filterMap_congr fun mention member => ?_
    cases read : Rgba.parseBy css (mention.value theme.colorTable?) with
    | error => rfl
    | ok rgba =>
      obtain ⟨color, settled, _⟩ := Mention.settled_of_shown names member read
      rw [settled]
      rfl
  rw [shown, drawn, cut]
  exact List.filter_sublist.filterMap _

/-- The colors that a document shows are drawn where they stand, and as the same colors. A hexadecimal color is
among them if it has the digits of one. -/
structure SwatchesAgree (parse : String → Except ColorError Rgba) (text : List Char) (shown : List DocumentColor)
    (drawn : List Decoration) : Prop where
  ranges : (shown.map (·.range)).Sublist (drawn.map (·.range))
  colors : ∀ color ∈ shown, ∀ decoration ∈ drawn, decoration.range = color.range →
    parse (hexColor decoration.color) = .ok color.color
  literals : ∀ mention ∈ Mention.all text, mention.kind = .hex →
    ((∃ color ∈ shown, color.range = mention.range text) ↔ mention.name.tail.length ∈ [3, 4, 6, 8])

theorem swatchesAgree_settled (names : ReadsOnlyNames css) (theme : Theme) (text : List Char) :
    SwatchesAgree (Rgba.parseBy css) text (theme.documentColorsBy css text) (settledDecorations theme.value? text) where
  ranges := ranges_sublist names
  colors color isShown decoration isDrawn sameRange := by
    obtain ⟨mention, member, range, read⟩ := mem_documentColorsBy.mp isShown
    obtain ⟨other, isOther, otherRange, drawnValue⟩ := mem_settledDecorations.mp isDrawn
    have same : other = mention := Mention.range_injective isOther member (by rw [← otherRange, sameRange, range])
    obtain ⟨value, found, sameColor⟩ := Mention.settled_of_shown names member read
    rw [same, found] at drawnValue
    rwa [← Option.some.inj drawnValue]
  literals mention member isHex := by
    rw [← Mention.shown_of_hex_iff member isHex css theme.colorTable?]
    constructor
    · rintro ⟨color, isShown, range⟩
      obtain ⟨other, isOther, otherRange, read⟩ := mem_documentColorsBy.mp isShown
      have same : other = mention := Mention.range_injective isOther member (by rw [← otherRange, range])
      exact ⟨color.color, same ▸ read⟩
    · rintro ⟨rgba, read⟩
      exact ⟨⟨mention.range text, rgba⟩, mem_documentColorsBy.mpr ⟨mention, member, rfl, read⟩, rfl⟩

/-- As soon as all is known, what a document shows agrees with what is drawn over it, with the reader of CSS that
there is and with any other that takes nothing but names for colors. How often the theme was accessed before
does not matter to either. -/
theorem swatches_agree {script : String} (loaded : ofScript script = .ok theme) (text : List Char)
    (earlier later : Nat) :
    SwatchesAgree Rgba.parse text ((accessed^[earlier] theme).documentColors text).1
      ((accessed^[later] theme).secondPass text) ∧
    ∀ css, ReadsOnlyNames css →
      SwatchesAgree (Rgba.parseBy css) text ((accessed^[earlier] theme).documentColorsBy css text)
        ((accessed^[later] theme).secondPass text) := by
  have steady := (readSource_ofScript loaded).steady
  have drawn : (accessed^[later] theme).secondPass text = settledDecorations theme.value? text := by
    rw [← steady.value?_iterate later]
    exact (steady.iterate later).secondPass text
  rw [documentColors_fst, drawn, steady.documentColorsBy, Rgba.parse_eq]
  refine ⟨swatchesAgree_settled Css.readsOnlyNames_parse? theme text, fun css names => ?_⟩
  rw [steady.documentColorsBy]
  exact swatchesAgree_settled names theme text

theorem swatches_agree_beside_empty_value :
    let script := "module.exports = \x7b theme: \x7b colors: () => (\x7b a: 'Red', b: '' \x7d) \x7d \x7d"
    let text := "@color fg a; @color bg b; @color fill Teal; #f00 #12345".toList
    let unable : List Char → Option Rgba := fun _ => none
    ∃ theme, ofScript script = .ok theme ∧
      (theme.documentColors text).1.map (·.color) = [⟨255, 0, 0, 255⟩, ⟨0, 128, 128, 255⟩, ⟨255, 0, 0, 255⟩] ∧
      SwatchesAgree Rgba.parse text (theme.documentColors text).1 (theme.secondPass text) ∧ ReadsOnlyNames unable ∧
      SwatchesAgree (Rgba.parseBy unable) text (theme.documentColorsBy unable text) (theme.secondPass text) := by
  intro script text unable
  have names : ReadsOnlyNames unable := by
    intro name _ _ read
    cases read
  have shown : (ofScript script).toOption.map (fun theme => (theme.documentColors text).1.map (·.color)) =
      some [⟨255, 0, 0, 255⟩, ⟨0, 128, 128, 255⟩, ⟨255, 0, 0, 255⟩] := by decide +kernel
  obtain ⟨theme, found, colors⟩ := Option.map_eq_some_iff.mp shown
  have loaded : ofScript script = .ok theme := by
    cases read : ofScript script with
    | error => simp [read, Except.toOption] at found
    | ok other => simpa [read, Except.toOption] using found
  obtain ⟨agree, others⟩ := swatches_agree loaded text 0 0
  exact ⟨theme, loaded, colors, agree, names, others unable names⟩

end Theme

end ThemeSense
