import ThemeSense.Completion.Record

namespace ThemeSense

/-- Text to look at in a font. -/
def previewText : String :=
  "The quick brown fox jumps over the lazy dog."

/-- A font name for CSS: quoted if it holds a space and no quote. -/
def cssFontName (font : String) : String :=
  let cs := font.toList
  if cs.contains ' ' && !cs.contains '"' && !cs.contains '\'' then "\"" ++ font ++ "\"" else font

/-- A Markdown table of sizes by breakpoint. -/
def sizeTable (sizes : Table SizeValue) : String :=
  "| Breakpoint | Size |\n| --- | --- |\n" ++
    String.join (sizes.map fun (breakpoint, size) => s!"| {breakpoint} | {size.display} |\n")

/-- A fenced block of CSS. -/
def cssBlock (code : String) : String :=
  "\x60\x60\x60css\n" ++ code ++ "\n\x60\x60\x60\n\n"

namespace Suggestion

def atRule (label detail usage : String) : Suggestion :=
  (plain label .atRule detail).documented (.plain usage)

def atRules : List Suggestion := ranked [
  atRule "@color" "EuropaCSS color at-rule" "@color fg|bg|fill|stroke|border [color]",
  atRule "@space" "EuropaCSS spacing at-rule" "@space [property] [size] [breakpoint]",
  atRule "@font" "EuropaCSS font at-rule" "@font [family] [size] [breakpoint]",
  atRule "@fontsize" "EuropaCSS font size at-rule" "@fontsize [size] [breakpoint]",
  atRule "@responsive" "EuropaCSS responsive at-rule" "@responsive [breakpoint] \x7b ... \x7d",
  atRule "@grid" "EuropaCSS grid at-rule" "@grid",
  atRule "@column" "EuropaCSS column at-rule" "@column [span]",
  atRule "@display" "EuropaCSS display at-rule" "@display [value]",
  atRule "@abs100" "EuropaCSS absolute positioning at-rule" "@abs100",
  atRule "@if" "EuropaCSS conditional at-rule" "@if [condition]",
  atRule "@iterate" "EuropaCSS iteration at-rule" "@iterate [values]",
  atRule "@unpack" "EuropaCSS unpacking at-rule" "@unpack [properties]"]

def targetDetail : String → String
  | "fg" => "Foreground (text) color"
  | "bg" => "Background color"
  | "fill" => "SVG fill color"
  | "stroke" => "SVG stroke color"
  | "border" => "Border color"
  | "border-top" => "Top border color"
  | "border-bottom" => "Bottom border color"
  | "border-left" => "Left border color"
  | _ => "Right border color"

def targets : List Suggestion :=
  ranked (colorTargets.map fun target => plain target .colorTarget (targetDetail target))

def ofColor (color : NamedValue) : Suggestion :=
  let hex := hexColor color.value
  { (plain color.name .color ("Color: " ++ color.value)).documented (.plain hex) with
    swatch := some ⟨hex, color.value⟩ }

/-- The colors outside groups, then those inside. -/
def colors : Option ColorTable → List Suggestion
  | none => []
  | some table => ranked ((table.flat ++ table.nested).map ofColor)

def operators : List Suggestion := [
  plain ">=" .operator "Greater than or equal to breakpoint",
  plain "<=" .operator "Less than or equal to breakpoint",
  plain ">" .operator "Greater than breakpoint",
  plain "<" .operator "Less than breakpoint"]

/-- Collections, then breakpoints, then comparisons. -/
def breakpoints (theme : Theme) : List Suggestion :=
  ranked (
    theme.collections.map (fun (name, expression) =>
      (plain name .collection expression).documented (.plain ("Includes: " ++ expression))) ++
    theme.breakpoints.map (fun (name, value) => plain name .breakpoint ("Breakpoint: " ++ value)) ++
    operators)

def familyPreview (font : String) : String :=
  s!"<span style=\"font-family: {cssFontName font};\">{previewText}</span>"

def families (theme : Theme) : List Suggestion :=
  ranked (theme.families.map fun (name, family) =>
    let previews := String.intercalate "\n\n" (family.fonts.map familyPreview)
    let block := cssBlock s!"font-family: {family.css};"
    (plain name .fontFamily ("Font family: " ++ family.css)).documented
      (.markdown s!"### {name}\n\n{block}#### Preview:\n{previews}"))

def sizePreview (size shown : String) : String :=
  s!"<span style=\"font-size: {size}\">Example text at {shown}</span>"

def ofSize (name : String) (size : FontSize) : Suggestion :=
  let title := s!"### Font Size: {name}\n\n"
  match size with
  | .fixed value =>
    let block := cssBlock s!"font-size: {value};"
    (plain name .fontSize ("Font size: " ++ value)).documented
      (.markdown s!"{title}{block}#### Preview:\n{sizePreview value value}")
  | .responsive sizes =>
    let preview := match sizes.head? with
      | some (_, first) => sizePreview (first.preview?.getD "") first.display
      | none => ""
    let summary := String.intercalate ", " (sizes.map fun (breakpoint, value) => breakpoint ++ ": " ++ value.display)
    (plain name .fontSize ("Responsive font size: " ++ summary)).documented
      (.markdown (title ++ "Responsive font sizes across breakpoints:\n\n" ++ sizeTable sizes ++
        "\n\n#### Preview:\n" ++ preview))

def sizes (theme : Theme) : List Suggestion :=
  ranked (theme.sizes.map fun (name, size) => ofSize name size)

def spacingText : SpacingValue → String
  | .length value => value
  | .nested _ => "[Object]"

/-- Every spacing name, whatever its value. -/
def spacing (theme : Theme) : List Suggestion :=
  ranked (theme.spacing.map fun (name, value) => plain name .spacing ("Spacing: " ++ spacingText value))

end Suggestion

/-- The suggestions for a slot, and the theme as looking at it leaves it. -/
def Theme.suggestions (theme : Theme) : Slot → List Suggestion × Theme
  | .atRuleName => (Suggestion.atRules, theme)
  | .colorTarget => (Suggestion.targets, theme)
  | .colorValue =>
    let (table, theme) := theme.resolveColors
    (Suggestion.colors table, theme)
  | .fontFamily => (Suggestion.families theme, theme)
  | .fontSize => (Suggestion.sizes theme, theme)
  | .breakpoint => (Suggestion.breakpoints theme, theme)
  | .spacingValue => (Suggestion.spacing theme, theme)
  | .outside => ([], theme)

end ThemeSense
